import Mathlib.Data.List.Nodup
import VoucherSwap.Proofs.Stack
import VoucherSwap.Transfer

/-!
The way through a stack. Its hooks stand one around another, the first on top, around what is at the
bottom, and what a request does not arrive at makes no difference to it. A layer that calls down may
turn a request into one of another kind, so the three kinds that come in take one and the same way.
To see where a request has been, each hook is given a mark to leave when it is entered. The marks
lie beside the state, where no hook can see them, so a walk that leaves them is the same walk.
-/

namespace VoucherSwap

variable {σ Q : Type} {A : Q → Type}

namespace Hook

/-- Hooks one around another, the first on top, around what is at the bottom. -/
def through : List (Hook σ A) → Service σ A → Service σ A
  | [], bottom => bottom
  | hook :: inner, bottom => hook.atop (through inner bottom)

def Descends (hook : Hook σ A) (request : Q) (before : σ) : Prop :=
  ∃ below finish middle, hook request before = some (.descend below finish, middle)

/-- Every one of the hooks calls down, and this is the request that leaves the last of them. -/
inductive Arrives : List (Hook σ A) → Q → σ → Q → σ → Prop where
  | here {request : Q} {before : σ} : Arrives [] request before request before
  | down {hook : Hook σ A} {inner : List (Hook σ A)} {request below reached : Q}
      {before middle state : σ} {finish : A below → Effect σ (A request)}
      (descends : hook request before = some (.descend below finish, middle))
      (onward : Arrives inner below middle reached state) :
      Arrives (hook :: inner) request before reached state

theorem through_append (outer inner : List (Hook σ A)) (bottom : Service σ A) :
    through (outer ++ inner) bottom = through outer (through inner bottom) := by
  induction outer with
  | nil => rfl
  | cons hook rest ih => simp only [List.cons_append, through, ih]

theorem atop_stops {hook : Hook σ A} {request : Q} {before : σ}
    (stops : ¬ hook.Descends request before) (below below' : Service σ A) :
    hook.atop below request before = hook.atop below' request before := by
  simp only [atop_run]
  cases ran : hook request before with
  | none => rfl
  | some step =>
      obtain ⟨visit, middle⟩ := step
      cases visit with
      | answer answer => rfl
      | descend other finish => exact absurd ⟨other, finish, middle, ran⟩ stops

-- By induction on the hooks around the one that stops the request; each of them does the same in
-- both walks, and if it calls down, it does so with the same request.
theorem through_hidden {outer : List (Hook σ A)} {hook : Hook σ A} {request : Q} {before : σ}
    (stops : ∀ reached state, Arrives outer request before reached state →
      ¬ hook.Descends reached state)
    (inner inner' : List (Hook σ A)) (bottom bottom' : Service σ A) :
    through (outer ++ hook :: inner) bottom request before =
      through (outer ++ hook :: inner') bottom' request before := by
  induction outer generalizing request before with
  | nil => exact atop_stops (stops request before .here) _ _
  | cons first rest ih =>
      simp only [List.cons_append, through, atop_run]
      cases ran : first request before with
      | none => rfl
      | some step =>
          obtain ⟨visit, middle⟩ := step
          cases visit with
          | answer answer => rfl
          | descend other finish =>
              simp only [Option.bind_some]
              rw [ih fun reached state arrives => stops reached state (.down ran arrives)]

end Hook

/-- A place on the way through a stack: a layer, known by its position, or what is at the bottom. -/
inductive Station where
  | layer (position : Nat)
  | bottom
  deriving DecidableEq

abbrev Trail := List Station

/-- The same effect beside a trail, which it neither reads nor changes. -/
def Effect.beside {β : Type} (effect : Effect σ β) : Effect (σ × Trail) β := fun (state, trail) =>
  (effect state).map fun (result, after) => (result, after, trail)

def marking (station : Station) (effect : (request : Q) → Effect σ (A request)) (request : Q) :
    Effect (σ × Trail) (A request) := do
  modify fun (state, trail) => (state, trail ++ [station])
  (effect request).beside

def Hook.marked (station : Station) (hook : Hook σ A) : Hook (σ × Trail) A := fun request => do
  match ← marking station hook request with
  | .answer answer => return .answer answer
  | .descend below finish => return .descend below fun answer => (finish answer).beside

def Layer.marked (layer : Layer σ) (station : Station) : Layer (σ × Trail) where
  incoming := layer.incoming.marked station
  send := layer.send.marked station

def Application.marked (application : Application σ) : Application (σ × Trail) where
  receive := marking .bottom application.receive
  acknowledge := marking .bottom application.acknowledge
  timeout := marking .bottom application.timeout

def Stack.marked (stack : Stack σ) : Stack (σ × Trail) where
  layers := stack.layers.mapIdx fun position layer => layer.marked (.layer position)
  application := stack.application.marked

def Stack.stations (stack : Stack σ) : Trail := (List.range stack.size).map .layer

/-- A walk that leaves a trail. Without the trail it is the walk itself; the trail is a beginning of
the way, and no station is on it twice. -/
structure Trails (way : Trail) (walk : Service σ A) (trailing : Service (σ × Trail) A) : Prop where
  same : ∀ request before,
    (trailing request (before, [])).map (fun step => (step.1, step.2.1)) = walk request before
  onward : ∀ {request before answer after trail},
    trailing request (before, []) = some (answer, after, trail) → trail <+: way
  once : ∀ {request before answer after trail},
    trailing request (before, []) = some (answer, after, trail) → trail.Nodup

namespace Hook

theorem marked_atop_run (station : Station) (hook : Hook σ A) (below : Service (σ × Trail) A)
    (request : Q) (before : σ) (trail : Trail) :
    (hook.marked station).atop below request (before, trail) =
      (hook request before).bind fun step =>
        match step.1 with
        | .answer answer => some (answer, step.2, trail ++ [station])
        | .descend other finish => (below other (step.2, trail ++ [station])).bind fun answer =>
            (finish answer.1 answer.2.1).map fun finished =>
              (finished.1, finished.2, answer.2.2) := by
  have entered : hook.marked station request (before, trail) =
      (hook request before).map fun step =>
        match step.1 with
        | .answer answer => (.answer answer, step.2, trail ++ [station])
        | .descend other finish =>
          (.descend other fun answer => (finish answer).beside, step.2, trail ++ [station]) := by
    show ((hook request before).map _).bind _ = _
    cases hook request before with
    | none => rfl
    | some step =>
        obtain ⟨visit, middle⟩ := step
        cases visit <;> rfl
  rw [atop_run, entered]
  cases hook request before with
  | none => rfl
  | some step =>
      obtain ⟨visit, middle⟩ := step
      cases visit <;> rfl

variable (entries : List (Station × Hook σ A)) (bottom : Service σ A)

def markedWalk : Service (σ × Trail) A :=
  through (entries.map fun entry => entry.2.marked entry.1) (marking .bottom bottom)

theorem markedWalk_cons (station : Station) (hook : Hook σ A) :
    markedWalk ((station, hook) :: entries) bottom =
      (hook.marked station).atop (markedWalk entries bottom) := rfl

theorem markedWalk_same (request : Q) (before : σ) (trail : Trail) :
    (markedWalk entries bottom request (before, trail)).map (fun step => (step.1, step.2.1)) =
      through (entries.map Prod.snd) bottom request before := by
  induction entries generalizing request before trail with
  | nil =>
      show ((bottom request before).map _).map _ = bottom request before
      cases bottom request before <;> rfl
  | cons entry rest ih =>
      obtain ⟨station, hook⟩ := entry
      show _ = hook.atop (through (rest.map Prod.snd) bottom) request before
      rw [markedWalk_cons, marked_atop_run, atop_run]
      cases hook request before with
      | none => rfl
      | some step =>
          obtain ⟨visit, middle⟩ := step
          cases visit with
          | answer answer => rfl
          | descend other finish =>
              simp only [Option.bind_some, ← ih other middle (trail ++ [station])]
              cases markedWalk rest bottom other (middle, trail ++ [station]) with
              | none => rfl
              | some answer =>
                  show ((finish _ _).map _).map _ = finish _ _
                  cases finish answer.1 answer.2.1 <;> rfl

variable {entries bottom}

-- By induction on the hooks: one that answers leaves the last mark, and one that calls down leaves
-- its own in front of those that the rest of the walk leaves. Finishing leaves none.
theorem markedWalk_onward {request : Q} {before after : σ} {answer : A request}
    {trail final : Trail}
    (ran : markedWalk entries bottom request (before, trail) = some (answer, after, final)) :
    ∃ visited, final = trail ++ visited ∧ visited <+: entries.map Prod.fst ++ [.bottom] := by
  induction entries generalizing request before trail answer after final with
  | nil =>
      obtain ⟨step, -, same⟩ := Option.map_eq_some_iff.mp ran
      cases same
      exact ⟨[.bottom], rfl, List.prefix_rfl⟩
  | cons entry rest ih =>
      obtain ⟨station, hook⟩ := entry
      rw [markedWalk_cons, marked_atop_run] at ran
      obtain ⟨⟨visit, middle⟩, -, went⟩ := Option.bind_eq_some_iff.mp ran
      cases visit with
      | answer answer =>
          cases went
          exact ⟨[station], rfl, List.prefix_append _ _⟩
      | descend other finish =>
          obtain ⟨⟨below, later, left⟩, walked, finished⟩ := Option.bind_eq_some_iff.mp went
          obtain ⟨visited, rfl, beginning⟩ := ih walked
          obtain ⟨step, -, same⟩ := Option.map_eq_some_iff.mp finished
          cases same
          exact ⟨station :: visited, by simp, (List.prefix_cons_inj station).mpr beginning⟩

theorem trails_markedWalk (distinct : (entries.map Prod.fst ++ [Station.bottom]).Nodup) :
    Trails (entries.map Prod.fst ++ [.bottom]) (through (entries.map Prod.snd) bottom)
      (markedWalk entries bottom) := by
  have onward : ∀ {request before answer after trail},
      markedWalk entries bottom request (before, []) = some (answer, after, trail) →
        trail <+: entries.map Prod.fst ++ [.bottom] := by
    intro request before answer after trail ran
    obtain ⟨visited, rfl, beginning⟩ := markedWalk_onward ran
    exact beginning
  exact {
    same := fun request before => markedWalk_same entries bottom request before []
    onward := onward
    once := fun ran => (onward ran).sublist.nodup distinct }

end Hook

/-- One list of layers is another with layers added, anywhere, that leave every hook as it comes. -/
inductive Padded : List (Layer σ) → List (Layer σ) → Prop where
  | nil : Padded [] []
  | keep (layer : Layer σ) {layers more : List (Layer σ)} (rest : Padded layers more) :
      Padded (layer :: layers) (layer :: more)
  | add {layers more : List (Layer σ)} (rest : Padded layers more) :
      Padded layers (.passing :: more)

namespace Hook

variable {hookOf : Layer σ → Hook σ A}

theorem through_padded (passes : hookOf .passing = .pass) {layers more : List (Layer σ)}
    (padded : Padded layers more) (bottom : Service σ A) :
    through (more.map hookOf) bottom = through (layers.map hookOf) bottom := by
  induction padded with
  | nil => rfl
  | keep layer rest ih => simp only [List.map_cons, through, ih]
  | add rest ih =>
      rw [List.map_cons, through, ih]
      funext request
      exact pass_atop (congrFun passes request)

theorem through_reverse_padded (passes : hookOf .passing = .pass) {layers more : List (Layer σ)}
    (padded : Padded layers more) (bottom : Service σ A) :
    through (more.reverse.map hookOf) bottom = through (layers.reverse.map hookOf) bottom := by
  induction padded generalizing bottom with
  | nil => rfl
  | keep layer rest ih => simp only [List.reverse_cons, List.map_append, through_append, ih]
  | add rest ih =>
      rw [List.reverse_cons, List.map_append, through_append, ih]
      congr 1
      funext request
      exact pass_atop (congrFun passes request)

end Hook

def lines (names : List String) (action : String) : List String := names.map (· ++ action)

theorem Hook.traced_atop {α : Type} {host : Host σ α} {hook : Hook σ A} {request : Q}
    {line : String} (logs : hook request = Layer.traced host line request) (below : Service σ A)
    (before : σ) : hook.atop below request before = below request (host.log line before) := by
  rw [atop_run, logs]
  exact Option.bind_fun_some _

-- By induction on the names. A tracing layer calls down with the request that it was entered with,
-- so what it does is logged as the same action all the way.
theorem Hook.through_tracing {α : Type} {host : Host σ α} {hookOf : Layer σ → Hook σ A}
    {request : Q} {action : String}
    (logs : ∀ name,
      hookOf (.tracing host name) request = Layer.traced host (name ++ action) request)
    (names : List String) (bottom : Service σ A) (before : σ) :
    through ((names.map (Layer.tracing host)).map hookOf) bottom request before =
      bottom request
        ((lines names action).foldl (fun state line => host.log line state) before) := by
  induction names generalizing before with
  | nil => rfl
  | cons name rest ih => exact (traced_atop (logs name) _ before).trans (ih _)

/-- A walk through hooks to what is at the bottom: the hooks one around another, and nothing behind
a hook that does not call down on what arrives at it makes a difference. -/
structure Walks (hooks : List (Hook σ A)) (bottom walk : Service σ A) : Prop where
  nested : walk = Hook.through hooks bottom
  hidden : ∀ {outer inner hook request before}, hooks = outer ++ hook :: inner →
    (∀ reached state, Hook.Arrives outer request before reached state →
      ¬ hook.Descends reached state) →
        ∀ inner' bottom',
          walk request before = Hook.through (outer ++ hook :: inner') bottom' request before

theorem Hook.walks_through (hooks : List (Hook σ A)) (bottom : Service σ A) :
    Walks hooks bottom (through hooks bottom) where
  nested := rfl
  hidden := by
    rintro outer inner hook request before rfl stops inner' bottom'
    exact through_hidden stops inner inner' bottom bottom'

namespace Stack

section

variable (hookOf : Layer σ → Hook σ A) (layers : List (Layer σ)) (bottom : Service σ A)

theorem foldr_through :
    layers.foldr (fun layer below => (hookOf layer).atop below) bottom =
      Hook.through (layers.map hookOf) bottom := by
  induction layers with
  | nil => rfl
  | cons layer rest ih => rw [List.foldr_cons, ih, List.map_cons, Hook.through]

theorem foldl_through :
    layers.foldl (fun below layer => (hookOf layer).atop below) bottom =
      Hook.through (layers.reverse.map hookOf) bottom := by
  rw [← List.foldr_reverse, foldr_through]

def entries : List (Station × Hook σ A) :=
  layers.mapIdx fun position layer => (.layer position, hookOf layer)

theorem entries_stations :
    (entries hookOf layers).map Prod.fst = (List.range layers.length).map Station.layer := by
  apply List.ext_getElem <;> simp [entries]

theorem entries_hooks : (entries hookOf layers).map Prod.snd = layers.map hookOf := by
  apply List.ext_getElem <;> simp [entries]

end

section

variable (stack : Stack σ)

theorem nodup_stations : (stack.stations ++ [Station.bottom]).Nodup := by
  have distinct : stack.stations.Nodup :=
    List.Nodup.map (fun first second same => Station.layer.inj same) List.nodup_range
  rw [List.nodup_append]
  refine ⟨distinct, List.nodup_singleton _, ?_⟩
  intro station member other last
  obtain ⟨position, -, rfl⟩ := List.mem_map.mp member
  cases List.mem_singleton.mp last
  exact Station.noConfusion

theorem marked_incoming : stack.marked.application.incoming =
    marking .bottom stack.application.incoming := by
  funext request
  cases request <;> rfl

variable {hookOf : Layer σ → Hook σ A} {markedHookOf : Layer (σ × Trail) → Hook (σ × Trail) A}
  (marks : ∀ layer station, markedHookOf (layer.marked station) = (hookOf layer).marked station)
  (bottom : Service σ A)
include marks

theorem marked_layers : stack.marked.layers.map markedHookOf =
    (entries hookOf stack.layers).map fun entry => entry.2.marked entry.1 := by
  apply List.ext_getElem <;> simp [Stack.marked, entries, marks]

theorem trails_through :
    Trails (stack.stations ++ [Station.bottom]) (Hook.through (stack.layers.map hookOf) bottom)
      (Hook.through (stack.marked.layers.map markedHookOf) (marking .bottom bottom)) := by
  have distinct := stack.nodup_stations
  rw [stations, size, ← entries_stations hookOf] at distinct ⊢
  rw [marked_layers stack marks, ← entries_hooks]
  exact Hook.trails_markedWalk distinct

theorem trails_reverse :
    Trails (stack.stations.reverse ++ [Station.bottom])
      (Hook.through (stack.layers.reverse.map hookOf) bottom)
      (Hook.through (stack.marked.layers.reverse.map markedHookOf) (marking .bottom bottom)) := by
  have distinct : (stack.stations.reverse ++ [Station.bottom]).Nodup :=
    ((List.reverse_perm _).append_right _).nodup_iff.mpr stack.nodup_stations
  have hooks : stack.layers.reverse.map hookOf =
      (entries hookOf stack.layers).reverse.map Prod.snd := by
    rw [List.map_reverse, List.map_reverse, entries_hooks]
  have markedHooks : stack.marked.layers.reverse.map markedHookOf =
      (entries hookOf stack.layers).reverse.map fun entry => entry.2.marked entry.1 := by
    rw [List.map_reverse, List.map_reverse, marked_layers stack marks]
  rw [stations, size, ← entries_stations hookOf, ← List.map_reverse] at distinct ⊢
  rw [hooks, markedHooks]
  exact Hook.trails_markedWalk distinct

end

end Stack

/-- How the four hooks of a stack go through its layers. What comes in takes one way, since a layer
may call down with a request of another kind. -/
structure Traverses (stack : Stack σ) (send : Packet → Effect σ Dispatch) : Prop where
  incoming : Walks (stack.layers.map (·.incoming)) stack.application.incoming stack.incoming
  receive : ∀ delivery, stack.receive delivery =
    Hook.through (stack.layers.map (·.incoming)) stack.application.incoming (.receive delivery)
  acknowledge : ∀ answered, stack.acknowledge answered =
    Hook.through (stack.layers.map (·.incoming)) stack.application.incoming (.acknowledge answered)
  timeout : ∀ delivery, stack.timeout delivery =
    Hook.through (stack.layers.map (·.incoming)) stack.application.incoming (.timeout delivery)
  send : Walks (stack.layers.reverse.map (·.send)) send (stack.send send)

structure LeavesTrails (stack : Stack σ) (send : Packet → Effect σ Dispatch) : Prop where
  incoming : Trails (stack.stations ++ [Station.bottom]) stack.incoming stack.marked.incoming
  send : Trails (stack.stations.reverse ++ [Station.bottom]) (stack.send send)
    (stack.marked.send (marking .bottom send))

/-- Layers that log and call down: the lines come from the first name to the last, for sends from
the last to the first, and then the bottom is reached. -/
structure Traces {α : Type} (host : Host σ α) (names : List String) (stack : Stack σ)
    (send : Packet → Effect σ Dispatch) : Prop where
  receive : ∀ delivery before, stack.receive delivery before =
    stack.application.receive delivery
      ((lines names ":recv").foldl (fun state line => host.log line state) before)
  acknowledge : ∀ answered before, stack.acknowledge answered before =
    stack.application.acknowledge answered
      ((lines names ":ack").foldl (fun state line => host.log line state) before)
  timeout : ∀ delivery before, stack.timeout delivery before =
    stack.application.timeout delivery
      ((lines names ":timeout").foldl (fun state line => host.log line state) before)
  send : ∀ packet before, stack.send send packet before =
    send packet ((lines names.reverse ":send").foldl (fun state line => host.log line state) before)

structure Agrees (stack other : Stack σ) (send : Packet → Effect σ Dispatch) : Prop where
  receive : other.receive = stack.receive
  acknowledge : other.acknowledge = stack.acknowledge
  timeout : other.timeout = stack.timeout
  send : other.send send = stack.send send

namespace Stack

variable (stack : Stack σ) (send : Packet → Effect σ Dispatch)

theorem incoming_through : stack.incoming =
    Hook.through (stack.layers.map (·.incoming)) stack.application.incoming :=
  foldr_through _ _ _

theorem send_through : stack.send send =
    Hook.through (A := Uniform Packet Dispatch) (stack.layers.reverse.map (·.send)) send :=
  foldl_through _ _ _

theorem traverses : Traverses stack send where
  incoming := by
    rw [incoming_through]
    exact Hook.walks_through _ _
  receive delivery := congrFun stack.incoming_through (.receive delivery)
  acknowledge answered := congrFun stack.incoming_through (.acknowledge answered)
  timeout delivery := congrFun stack.incoming_through (.timeout delivery)
  send := by
    rw [send_through]
    exact Hook.walks_through _ _

theorem leavesTrails : LeavesTrails stack send where
  incoming := by
    rw [incoming_through, incoming_through, marked_incoming]
    exact stack.trails_through (fun _ _ => rfl) _
  send := by
    rw [send_through, send_through]
    exact stack.trails_reverse (fun _ _ => rfl) _

theorem traces {α : Type} {host : Host σ α} {names : List String}
    (tracing : stack.layers = names.map (Layer.tracing host)) : Traces host names stack send where
  receive := by
    intro delivery before
    rw [Stack.receive, incoming_through, tracing]
    exact Hook.through_tracing (fun _ => rfl) names _ before
  acknowledge := by
    intro answered before
    rw [Stack.acknowledge, incoming_through, tracing]
    exact Hook.through_tracing (fun _ => rfl) names _ before
  timeout := by
    intro delivery before
    rw [Stack.timeout, incoming_through, tracing]
    exact Hook.through_tracing (fun _ => rfl) names _ before
  send := by
    intro packet before
    rw [send_through, tracing, ← List.map_reverse]
    exact Hook.through_tracing (fun _ => rfl) names.reverse _ before

theorem agrees {more : List (Layer σ)} (padded : Padded stack.layers more) :
    Agrees stack { stack with layers := more } send := by
  have incoming : Stack.incoming { stack with layers := more } = stack.incoming := by
    rw [incoming_through, incoming_through]
    exact Hook.through_padded rfl padded _
  exact {
    receive := funext fun delivery => congrFun incoming (.receive delivery)
    acknowledge := funext fun answered => congrFun incoming (.acknowledge answered)
    timeout := funext fun delivery => congrFun incoming (.timeout delivery)
    send := by
      rw [send_through, send_through]
      exact Hook.through_reverse_padded rfl padded _ }

-- The hooks are two folds, one for each direction, of hooks that are taken from the layers in the
-- same way.
theorem traversal :
    Traverses stack send ∧ LeavesTrails stack send ∧
      (∀ {α : Type} (host : Host σ α) (names : List String),
        stack.layers = names.map (Layer.tracing host) → Traces host names stack send) ∧
      ∀ more, Padded stack.layers more → Agrees stack { stack with layers := more } send :=
  ⟨stack.traverses send, stack.leavesTrails send, fun _ _ tracing => stack.traces send tracing,
    fun _ padded => stack.agrees send padded⟩

def tracingStack : Stack Chain where
  layers := ["outer", "inner"].map (Layer.tracing Chain.host)
  application := Transfer.application ⟨false, false⟩

def blockingStack : Stack Chain where
  layers :=
    [.tracing Chain.host "outer", .blocking Chain.host "middle", .tracing Chain.host "inner"]
  application := Transfer.application ⟨false, false⟩

/-- Answers timeouts with what the layers below say to an acknowledgement. -/
def retelling (acknowledgement : Acknowledgement) : Layer Chain where
  incoming
    | .timeout delivery => return .descend (.acknowledge (delivery, acknowledgement)) pure
    | request => Hook.pass request

def crossingStack (acknowledgement : Acknowledgement) : Stack Chain where
  layers := [.tracing Chain.host "outer", retelling acknowledgement, .tracing Chain.host "inner"]
  application := Transfer.application ⟨false, false⟩

theorem traversal_tracingStack :
    Traces Chain.host ["outer", "inner"] tracingStack Chain.sendPacket ∧
      Agrees tracingStack
        { tracingStack with
          layers := [.tracing Chain.host "outer", .passing, .tracing Chain.host "inner"] }
        Chain.sendPacket ∧
      (∀ delivery before inner application, blockingStack.receive delivery before =
        Hook.through ([(Layer.tracing Chain.host "outer").incoming] ++
          (Layer.blocking Chain.host "middle").incoming :: inner) application
          (.receive delivery) before) ∧
      (∀ packet before outer send, blockingStack.send Chain.sendPacket packet before =
        Hook.through ([Layer.traced Chain.host "inner:send"] ++
          (Layer.blocking Chain.host "middle").send :: outer) send packet before) ∧
      ∀ acknowledgement delivery before,
        (crossingStack acknowledgement).timeout delivery before =
          (Transfer.application ⟨false, false⟩).acknowledge (delivery, acknowledgement)
            (Chain.host.log "inner:ack" (Chain.host.log "outer:timeout" before)) := by
  obtain ⟨-, -, traces, agrees⟩ := traversal tracingStack Chain.sendPacket
  obtain ⟨walks, -⟩ := traversal blockingStack Chain.sendPacket
  refine ⟨traces Chain.host _ rfl, agrees _ (.keep _ (.add (.keep _ .nil))), ?_, ?_, ?_⟩
  · intro delivery before inner application
    refine walks.incoming.hidden rfl ?_ inner application
    rintro reached state - ⟨below, finish, middle, ran⟩
    cases ran
  · intro packet before outer send
    refine walks.send.hidden rfl ?_ outer send
    rintro reached state - ⟨below, finish, middle, ran⟩
    cases ran
  · intro acknowledgement delivery before
    obtain ⟨crosses, -⟩ := traversal (crossingStack acknowledgement) Chain.sendPacket
    rw [crosses.timeout]
    refine (Hook.traced_atop rfl _ before).trans ?_
    rw [List.map_cons, Hook.through, Hook.atop_run]
    refine (Option.bind_fun_some _).trans ?_
    exact Hook.traced_atop rfl _ _

end Stack

end VoucherSwap
