import GridScript.Proofs.Script.Containment.Machine
import GridScript.Proofs.Script.Regime

namespace GridScript.Script

/-!
# Evaluation under a regime

If a monitor raises nothing but alarms of a regime, and the built-in functions
that the regime admits give values that fit, then every run that starts within
the regime follows it: expressions give values that fit, and errors leave
expressions and statements with lines of nodes. Each step follows the regime if
the evaluation and execution of the parts do; runs follow by induction on the
depth of nesting. The value of a counting loop may be beyond its bounds, but it
is never bound to the variable then.
-/

namespace Regime

/-- A monitor raises alarms only, and monitored built-in functions
follow the regime. -/
structure Observes (r : Regime) (monitor : Monitor) : Prop where
  node :
    ∀ (n : Node) (machine : Machine) (halt : Halt),
      r.Holds machine → monitor.node n machine = some halt → r.alarm halt
  host :
    ∀ {callee : String} {arguments : List Expression} {line : Nat}
        {builtin : Builtin},
      r.node (.expression (.call callee arguments line)) →
        lookupBuiltin? callee = some builtin →
          ∀ values : List Value, (∀ v ∈ values, v.Narrow r.narrow) →
            r.Follows r.Inside (Value.Narrow r.narrow)
              (monitor.callHost builtin values line)
              (Action.callHost builtin values line)

namespace Follows

variable {r : Regime} {E : Halt → Prop}

/-! ## Places -/

theorem readPlace
    {line : Nat}
    (isLine : r.line line)
    (name : String)
    (path : List Value) :
    r.Follows r.Inside (Value.Narrow r.narrow) (Action.readPlace name path line)
      (Action.readPlace name path line) :=
  (readVariable isLine name).bind fun _ narrow =>
    ofAttemptAt (operation_contained (readAt_contained narrow path)) isLine

theorem writePlace
    {v : Value}
    {line : Nat}
    (isLine : r.line line)
    (fits : v.Narrow r.narrow)
    (name : String)
    (path : List Value) :
    r.Follows r.Inside (fun _ => True) (Action.writePlace name path v line)
      (Action.writePlace name path v line) := by
  have written :
      r.Follows r.Inside (Value.Narrow r.narrow)
        (Action.heldAfterWrite name path v line)
        (Action.heldAfterWrite name path v line) := by
    unfold Action.heldAfterWrite
    split
    · exact .pure fits
    · exact (readVariable isLine name).bind fun _ narrow =>
        ofAttemptAt (operation_contained (writeAt_contained narrow fits _)) isLine
  exact written.bind fun _ narrow => assign narrow name

/-! ## Calls -/

section Calls

variable
  {evaluate evaluate' evaluateDefault evaluateDefault' : Expression → Action Value}
  {execute execute' : Statement → Action Completion}

variable
  (evaluates :
    ∀ e, r.PermitsParts e.parts →
      r.Follows r.Inside (Value.Narrow r.narrow) (evaluate e) (evaluate' e))
  (evaluatesDefaults :
    ∀ e, r.PermitsParts e.parts →
      r.Follows r.Inside (Value.Narrow r.narrow) (evaluateDefault e)
        (evaluateDefault' e))
  (executes :
    ∀ s : Statement, r.Permits s.nodes →
      r.Follows r.Inside r.Completes (execute s) (execute' s))

include evaluates in
theorem evaluateAll
    {items : List Expression}
    (permits : r.PermitsParts (Expression.partsOfAll items)) :
    r.Follows r.Inside (fun values => ∀ v ∈ values, v.Narrow r.narrow)
      (items.mapM evaluate) (items.mapM evaluate') :=
  mapM items fun e member =>
    evaluates e (permitsParts_partsOfAll.mp permits e member)

/-- The indexes of a place are parts of it. -/
theorem permits_spine
    {e : Expression}
    (outer : List Expression)
    (permits : r.PermitsParts e.parts)
    (permitsOuter : ∀ i ∈ outer, r.PermitsParts i.parts) :
    ∀ i ∈ (e.spine outer).2, r.PermitsParts i.parts := by
  induction e, outer using Expression.spine.induct with
  | case1 target index line outer inductionHypothesis =>
      obtain ⟨inTarget, inIndex⟩ :=
        permitsParts_append.mp (permitsParts_cons.mp permits).2
      exact inductionHypothesis inTarget
        (List.forall_mem_cons.mpr ⟨inIndex, permitsOuter⟩)
  | case2 e outer notIndex =>
      cases e with
      | index target index line =>
          exact absurd rfl (notIndex target index line)
      | _ =>
          exact permitsOuter

include evaluates in
theorem evaluatePlace
    {argument : Expression}
    (permits : r.PermitsParts argument.parts) :
    r.Follows r.Inside (fun _ => True) (Action.evaluatePlace evaluate argument)
      (Action.evaluatePlace evaluate' argument) := by
  have indexes := permits_spine [] permits nofun
  unfold Action.evaluatePlace
  generalize argument.spine [] = spine at indexes ⊢
  obtain ⟨root, path⟩ := spine
  cases root with
  | name n line =>
      exact (mapM path fun i member => evaluates i (indexes i member)).map
        fun _ _ => trivial
  | _ =>
      exact stopAt _ (r.line_of_node (node_of_parts permits))

include evaluates in
theorem bindArgument
    {argument : Expression}
    {binding : Binding}
    (permits : r.PermitsParts argument.parts)
    (bound : Scope.Narrow r.narrow binding.scope)
    (parameter : Parameter) :
    r.Follows r.Inside (fun binding => Scope.Narrow r.narrow binding.scope)
      (Action.bindArgument evaluate parameter argument binding)
      (Action.bindArgument evaluate' parameter argument binding) := by
  have isLine := r.line_of_node (node_of_parts permits)
  unfold Action.bindArgument
  split
  · exact (evaluatePlace evaluates permits).bind fun (name, path) _ =>
      (readPlace isLine name path).bind fun _ fits => .pure (bound.set _ fits)
  · exact (evaluates argument permits).bind fun _ fits => .pure (bound.set _ fits)

include evaluatesDefaults in
theorem defaultValue
    {parameter : Parameter}
    (permits : ∀ e, parameter.default = some e → r.PermitsParts e.parts) :
    r.Follows r.Inside (Value.Narrow r.narrow)
      (Action.defaultValue evaluateDefault parameter)
      (Action.defaultValue evaluateDefault' parameter) := by
  unfold Action.defaultValue
  split
  next e held =>
    exact evaluatesDefaults e (permits e held)
  next =>
    exact .pure .null

include evaluates evaluatesDefaults in
theorem bindAll
    {parameters : List Parameter}
    {arguments : List Expression}
    {binding : Binding}
    (permits : r.PermitsParts (Expression.partsOfAll arguments))
    (permitsDefaults : r.PermitsParts (Parameter.partsOfAll parameters))
    (bound : Scope.Narrow r.narrow binding.scope) :
    r.Follows r.Inside (fun binding => Scope.Narrow r.narrow binding.scope)
      (Action.bindAll evaluate evaluateDefault parameters arguments binding)
      (Action.bindAll evaluate' evaluateDefault' parameters arguments binding) := by
  induction parameters generalizing arguments binding with
  | nil =>
      exact .pure bound
  | cons parameter parameters inductionHypothesis =>
      have defaults := permitsParts_partsOfParameters.mp permitsDefaults
      have restDefaults : r.PermitsParts (Parameter.partsOfAll parameters) :=
        permitsParts_partsOfParameters.mpr fun later member =>
          defaults later (by simp [member])
      unfold Action.bindAll
      split
      · exact (evaluateAll evaluates permits).bind fun _ each =>
          .pure (bound.set _ (.array each))
      · cases arguments with
        | nil =>
            exact
              (defaultValue evaluatesDefaults (defaults parameter (by simp))).bind
              fun _ fits =>
                inductionHypothesis permits restDefaults (bound.set _ fits)
        | cons argument rest =>
            obtain ⟨first, more⟩ := permitsParts_append.mp permits
            exact (bindArgument evaluates first bound parameter).bind fun _ kept =>
              inductionHypothesis more restDefaults kept

theorem runAll
    {run run' : Statement → Action Completion}
    {statements : List Statement}
    (runs : ∀ s ∈ statements, r.Follows E r.Completes (run s) (run' s)) :
    r.Follows E r.Completes (Script.runAll run statements)
      (Script.runAll run' statements) := by
  induction statements with
  | nil =>
      exact .pure trivial
  | cons s rest inductionHypothesis =>
      refine (runs s (by simp)).bind fun completion ends => ?_
      split
      · exact inductionHypothesis fun later member => runs later (by simp [member])
      · exact .pure ends

include executes in
theorem runBody
    {body : List Statement}
    (permits : r.Permits (Statement.nodesOfAll body)) :
    r.Follows r.Inside r.Completes (Script.runAll execute body)
      (Script.runAll execute' body) :=
  runAll fun s member => executes s (permits_nodesOfAll.mp permits s member)

theorem inCall
    {scope : Scope}
    {body body' : Action Completion}
    (bound : Scope.Narrow r.narrow scope)
    (follows : r.Follows r.Inside r.Completes body body') :
    r.Follows r.Inside
      (fun result => result.1.Narrow r.narrow ∧ Scope.Narrow r.narrow result.2)
      (Action.inCall scope body) (Action.inCall scope body') := by
  refine between ?_ (fun _ held => ⟨held.env.enterCall bound, held.functions⟩)
    fun _ held => ⟨held.env.leaveCall, held.functions⟩
  refine follows.bind fun completion ends => ?_
  have result :
      r.Follows r.Inside (Value.Narrow r.narrow) (Action.resultOfBody completion)
        (Action.resultOfBody completion) := by
    cases completion with
    | normal =>
        exact .pure .null
    | giveBack v =>
        exact .pure ends
    | exit kind line =>
        exact stopAt _ ends
  exact result.bind fun v fits =>
    get.bind fun machine held => .pure ⟨fits, held.env.callScope⟩

theorem writeBack
    {final : Scope}
    {line : Nat}
    (isLine : r.line line)
    (narrow : Scope.Narrow r.narrow final)
    (places : List WriteBack) :
    r.Follows r.Inside (fun _ => True) (Action.writeBack final line places)
      (Action.writeBack final line places) := by
  induction places with
  | nil =>
      exact .pure trivial
  | cons place rest inductionHypothesis =>
      have fits : ((final.find? place.parameter).getD .null).Narrow r.narrow := by
        cases found : final.find? place.parameter with
        | none =>
            exact .null
        | some v =>
            exact narrow.find? found
      exact (writePlace isLine fits _ _).bind fun _ _ => inductionHypothesis

theorem admitCall
    {line : Nat}
    (isLine : r.line line)
    (definition : Definition)
    (count : Nat) :
    r.Follows r.Inside (fun _ => True) (Action.admitCall definition count line)
      (Action.admitCall definition count line) := by
  refine get.bind fun machine _ => ?_
  split
  · exact stopAt _ isLine
  · split
    · exact stopAt _ isLine
    · exact .pure trivial

include evaluates evaluatesDefaults executes in
theorem callDefinition
    {definition : Definition}
    {arguments : List Expression}
    {line : Nat}
    (isLine : r.line line)
    (permitsDefinition : r.Permits definition.nodes)
    (permits : r.PermitsParts (Expression.partsOfAll arguments)) :
    r.Follows r.Inside (Value.Narrow r.narrow)
      (Action.callDefinition evaluate evaluateDefault execute definition
        arguments line)
      (Action.callDefinition evaluate' evaluateDefault' execute' definition
        arguments line) := by
  obtain ⟨defaults, body⟩ := permits_append.mp permitsDefinition
  have bound :=
    bindAll evaluates evaluatesDefaults permits (permits_ofParts.mp defaults)
      (show Scope.Narrow r.narrow Binding.empty.scope from nofun)
  refine (admitCall isLine definition _).bind fun _ _ =>
    bound.bind fun binding fits => ?_
  exact (inCall fits (runBody executes body)).bind fun (v, final) kept =>
    (writeBack isLine kept.2 _).bind fun _ _ => .pure kept.1

variable {monitor : Monitor} (observes : r.Observes monitor)

include observes evaluates evaluatesDefaults executes in
theorem callNamed
    {name : String}
    {arguments : List Expression}
    {line : Nat}
    (permits : r.PermitsParts (Expression.call name arguments line).parts) :
    r.Follows r.Inside (Value.Narrow r.narrow)
      (monitor.callNamed evaluate evaluateDefault execute name arguments line)
      (Action.callNamed evaluate' evaluateDefault' execute' name arguments
        line) := by
  obtain ⟨isNode, inside⟩ := permitsParts_cons.mp permits
  have isLine : r.line line := r.line_of_node isNode
  refine get.bind fun machine held => ?_
  cases found : machine.function? name with
  | some definition =>
      exact callDefinition evaluates evaluatesDefaults executes isLine
        (held.functions _ (mem_of_lookup found)) inside
  | none =>
      cases named : lookupBuiltin? name with
      | some builtin =>
          exact (evaluateAll evaluates inside).bind fun values each =>
            observes.host isNode named values each
      | none =>
          exact stopAt _ isLine

include evaluates in
theorem truth
    {condition : Expression}
    (permits : r.PermitsParts condition.parts) :
    r.Follows r.Inside (fun _ => True) (Action.truth evaluate condition)
      (Action.truth evaluate' condition) :=
  (evaluates condition permits).map fun _ _ => trivial

include observes evaluates evaluatesDefaults executes in
/-- The value of an expression follows the regime if the values of its parts do. -/
theorem evaluateStep
    {e : Expression}
    (permits : r.PermitsParts e.parts) :
    r.Follows r.Inside (Value.Narrow r.narrow)
      (monitor.evaluateStep evaluate evaluateDefault execute e)
      (Action.evaluateStep evaluate' evaluateDefault' execute' e) := by
  cases e with
  | literal l line =>
      exact .pure (r.narrow_of_node (permitsParts_cons.mp permits).1)
  | name name line =>
      exact readVariable (r.line_of_node (permitsParts_cons.mp permits).1) name
  | unary operator operand line =>
      exact (evaluates operand (permitsParts_cons.mp permits).2).bind fun _ fits =>
        ofAttemptLater (operation_contained (applyUnary_contained fits operator))
  | binary operator left right line =>
      obtain ⟨inLeft, inRight⟩ :=
        permitsParts_append.mp (permitsParts_cons.mp permits).2
      have tests := truth evaluates inRight
      cases operator with
      | disjunction =>
          refine (truth evaluates inLeft).bind fun holds _ => ?_
          split
          · exact .pure (.bool true)
          · exact tests.bind fun _ _ => .pure (.bool _)
      | conjunction =>
          refine (truth evaluates inLeft).bind fun holds _ => ?_
          split
          · exact tests.bind fun _ _ => .pure (.bool _)
          · exact .pure (.bool false)
      | apply operator =>
          exact (evaluates left inLeft).bind fun _ l =>
            (evaluates right inRight).bind fun _ fits =>
              ofAttemptLater
                (operation_contained (applyBinary_contained l fits operator))
  | call callee arguments line =>
      exact callNamed evaluates evaluatesDefaults executes observes permits
  | index target place line =>
      obtain ⟨isNode, inside⟩ := permitsParts_cons.mp permits
      obtain ⟨inTarget, inPlace⟩ := permitsParts_append.mp inside
      have isLine : r.line line := r.line_of_node isNode
      exact (evaluates target inTarget).bind fun _ fits =>
        (evaluates place inPlace).bind
        fun _ _ => get.bind fun machine _ =>
          ofAttemptAt (elementOf_contained fits machine.host.book _) isLine
  | array items line =>
      exact (evaluateAll evaluates (permitsParts_cons.mp permits).2).bind
        fun _ each =>
          .pure (.array each)

end Calls

/-! ## Loops -/

theorem countIteration
    {line : Nat}
    (isLine : r.line line)
    (number : Nat) :
    r.Follows r.Inside (fun _ => True) (Action.countIteration number line)
      (Action.countIteration number line) := by
  refine get.bind fun machine _ => ?_
  split
  · split
    · exact stopAt _ isLine
    · exact .pure trivial
  · exact .pure trivial

/-- A way in which an iteration may end its loop, if it does. -/
def Ended (r : Regime) : Option Completion → Prop
  | none => True
  | some completion => r.Completes completion

theorem ended_ofLoop?
    {completion : Completion}
    (ends : r.Completes completion)
    (kind : ExitKind) :
    Ended r (completion.ofLoop? kind) := by
  cases completion with
  | normal =>
      trivial
  | giveBack v =>
      exact ends
  | exit left line =>
      unfold Completion.ofLoop?
      dsimp only
      split
      · trivial
      · exact ends

section Loops

variable {body body' : Action Completion} {line : Nat}

variable
  (follows : r.Follows r.Inside r.Completes body body')
  (isLine : r.line line)

include follows isLine

theorem iterate
    {bindings : Scope}
    (narrow : Scope.Narrow r.narrow bindings)
    (kind : ExitKind)
    (number : Nat) :
    r.Follows r.Inside (Ended r) (Action.iterate kind number line bindings body)
      (Action.iterate kind number line bindings body') :=
  (countIteration isLine number).bind fun _ _ =>
    (forM bindings fun entry member => declare (narrow entry member) _).bind
      fun _ _ =>
        follows.bind fun _ ends => .pure (ended_ofLoop? ends kind)

theorem runEach
    {items : List Value}
    (narrow : ∀ v ∈ items, v.Narrow r.narrow)
    (name : String)
    (number : Nat) :
    r.Follows r.Inside r.Completes (Action.runEach name line body number items)
      (Action.runEach name line body' number items) := by
  induction items generalizing number with
  | nil =>
      exact .pure trivial
  | cons v rest inductionHypothesis =>
      have binding : Scope.Narrow r.narrow [(name, v)] := by
        intro entry member
        obtain rfl := List.mem_singleton.mp member
        exact narrow v (by simp)
      refine (iterate follows isLine binding _ _).bind fun ended ends => ?_
      split
      · exact inductionHypothesis (fun w member => narrow w (by simp [member])) _
      · exact .pure ends

theorem runWhile
    {condition condition' : Action Value}
    (tests : r.Follows r.Inside (Value.Narrow r.narrow) condition condition')
    (fuel count : Nat) :
    r.Follows r.Inside r.Completes (Action.runWhile line condition body fuel count)
      (Action.runWhile line condition' body' fuel count) := by
  induction fuel generalizing count with
  | zero =>
      exact .throw .exhausted
  | succ fuel inductionHypothesis =>
      have nothing : Scope.Narrow r.narrow [] := nofun
      refine tests.bind fun v _ => ?_
      split
      · refine (iterate follows isLine nothing _ _).bind fun ended ends => ?_
        split
        · exact inductionHypothesis _
        · exact .pure ends
      · exact .pure trivial

/-- The number of iterations bounds the values of a counting loop, so
that they have floats. -/
theorem runRange
    {p : Progression}
    (narrow : p.Narrow r.narrow)
    (name : String)
    {fuel count : Nat}
    (few : fuel + count ≤ 2 ^ 100) :
    r.Follows r.Inside r.Completes (Action.runRange name line p body fuel count)
      (Action.runRange name line p body' fuel count) := by
  induction fuel generalizing count with
  | zero =>
      exact .throw .exhausted
  | succ fuel inductionHypothesis =>
      have value := narrow.value (show count ≤ 2 ^ 100 by omega)
      refine (ofAttemptLater (operation_contained (.liftBreach value))).bind
        fun v fits => ?_
      split
      · exact .pure trivial
      next within =>
        have binding : Scope.Narrow r.narrow [(name, v.value)] := by
          intro entry member
          obtain rfl := List.mem_singleton.mp member
          exact .of_number (fits (by simpa using within))
        refine (iterate follows isLine binding _ _).bind fun ended ends => ?_
        split
        · exact inductionHypothesis (by omega)
        · exact .pure ends

end Loops

/-! ## Statements -/

section Statements

variable
  {evaluate evaluate' : Expression → Action Value}
  {execute execute' : Statement → Action Completion}

variable
  (evaluates :
    ∀ e, r.PermitsParts e.parts →
      r.Follows r.Inside (Value.Narrow r.narrow) (evaluate e) (evaluate' e))
  (executes :
    ∀ s : Statement, r.Permits s.nodes →
      r.Follows r.Inside r.Completes (execute s) (execute' s))

include evaluates in
theorem evaluateOr
    {otherwise : Value}
    (narrow : otherwise.Narrow r.narrow)
    {e : Option Expression}
    (permits : r.PermitsParts (Expression.partsOfOption e)) :
    r.Follows r.Inside (Value.Narrow r.narrow)
      (Action.evaluateOr otherwise evaluate e)
      (Action.evaluateOr otherwise evaluate' e) := by
  cases e with
  | none =>
      exact .pure narrow
  | some e =>
      exact evaluates e permits

include evaluates executes in
theorem runBranches
    {branches : List (Expression × List Statement)}
    {otherwise : Option (List Statement)}
    (permits : r.Permits (Statement.nodesOfBranches branches))
    (permitsOtherwise : r.Permits (Statement.nodesOfOption otherwise)) :
    r.Follows r.Inside r.Completes
      (Action.runBranches evaluate execute branches otherwise)
      (Action.runBranches evaluate' execute' branches otherwise) := by
  induction branches with
  | nil =>
      cases otherwise with
      | none =>
          exact .pure trivial
      | some body =>
          exact (runBody executes permitsOtherwise).inScope
  | cons branch rest inductionHypothesis =>
      obtain ⟨condition, body⟩ := branch
      obtain ⟨first, more⟩ := permits_append.mp permits
      obtain ⟨inCondition, inBody⟩ := permits_append.mp first
      refine (truth evaluates (permits_ofParts.mp inCondition)).bind
        fun holds _ => ?_
      split
      · exact (runBody executes inBody).inScope
      · exact inductionHypothesis more

theorem insideFunction
    {P : α → Prop}
    {action action' : Action α}
    {line : Nat}
    (follows : r.Follows r.Inside P action action')
    (isLine : r.line line)
    (fault : RuntimeFault) :
    r.Follows r.Inside P (Action.insideFunction fault line action)
      (Action.insideFunction fault line action') := by
  refine get.bind fun machine _ => ?_
  split
  · exact stopAt _ isLine
  · exact follows

include evaluates executes in
/-- The end of a statement follows the regime if its parts do. -/
theorem executeStep
    {iterations : Nat}
    (few : iterations ≤ 2 ^ 100)
    {s : Statement}
    (permits : r.Permits s.nodes) :
    r.Follows r.Inside r.Completes
      (Action.executeStep evaluate execute iterations s)
      (Action.executeStep evaluate' execute' iterations s) := by
  have isLine := r.line_of_node (permits _ s.mem_nodes)
  cases s with
  | dim name value line =>
      have inValue := permits_ofParts.mp (permits_cons.mp permits).2
      exact (evaluateOr evaluates .null inValue).bind fun _ fits =>
        (declare fits name).bind fun _ _ => .pure trivial
  | assign target value line =>
      obtain ⟨inIndexes, inValue⟩ :=
        permitsParts_append.mp (permits_ofParts.mp (permits_cons.mp permits).2)
      exact (evaluateAll evaluates inIndexes).bind fun path _ =>
        (evaluates value inValue).bind fun _ fits =>
          (writePlace isLine fits _ path).bind fun _ _ => .pure trivial
  | conditional branches otherwise line =>
      obtain ⟨inBranches, inOtherwise⟩ :=
        permits_append.mp (permits_cons.mp permits).2
      exact runBranches evaluates executes inBranches inOtherwise
  | forRange name start finish step body line =>
      obtain ⟨inBounds, inBody⟩ := permits_append.mp (permits_cons.mp permits).2
      obtain ⟨inEnds, inStep⟩ :=
        permitsParts_append.mp (permits_ofParts.mp inBounds)
      obtain ⟨inStart, inFinish⟩ := permitsParts_append.mp inEnds
      have one : (Value.int 1).Narrow r.narrow := .int (.inl (by decide))
      refine (evaluates start inStart).bind fun _ first =>
        (evaluates finish inFinish).bind fun _ last =>
          (evaluateOr evaluates one inStep).bind fun _ size => ?_
      exact (ofAttemptLater (ofBounds_contained first last size)).bind
        fun p narrow =>
          (runRange (runBody executes inBody) isLine narrow name few).inScope
  | forEach name collection body line =>
      obtain ⟨inCollection, inBody⟩ := permits_append.mp (permits_cons.mp permits).2
      refine (evaluates collection (permits_ofParts.mp inCollection)).bind
        fun _ fits =>
          get.bind fun machine _ => ?_
      exact (ofAttemptLater (elements_contained fits machine.host.book)).bind
        fun _ each =>
          (runEach (runBody executes inBody) isLine each name 1).inScope
  | whileLoop condition body line =>
      obtain ⟨inCondition, inBody⟩ := permits_append.mp (permits_cons.mp permits).2
      have tests := evaluates condition (permits_ofParts.mp inCondition)
      exact (runWhile (runBody executes inBody) isLine tests iterations 0).inScope
  | define name parameters body line =>
      exact (define (permits_cons.mp permits).2).bind fun _ _ => .pure trivial
  | giveBack value line =>
      have inValue := permits_ofParts.mp (permits_cons.mp permits).2
      refine insideFunction ?_ isLine _
      exact (evaluateOr evaluates .null inValue).bind fun _ fits => .pure fits
  | exit kind line =>
      cases kind with
      | function =>
          refine insideFunction ?_ isLine _
          exact .pure .null
      | _ =>
          exact .pure isLine
  | evaluate call line =>
      have inCall := permits_ofParts.mp (permits_cons.mp permits).2
      exact (evaluates call inCall).bind fun _ _ => .pure trivial

end Statements

/-! ## Runs -/

section Runs

variable {monitor : Monitor} (observes : r.Observes monitor)

include observes

/-- What the monitor halts after a node follows the regime. -/
theorem watch
    {P : α → Prop}
    {action action' : Action α}
    (follows : r.Follows r.Outside P action action')
    (n : Node) :
    r.Follows r.Outside P (monitor.watch n action) action' := by
  refine ⟨fun machine held => ?_, fun machine held => ?_⟩
  · obtain ⟨kept, meets⟩ := follows.upholds machine held
    unfold Monitor.watch
    split
    next halt halted =>
      exact ⟨kept, .error (.alarm (observes.node n _ halt kept halted))⟩
    next =>
      exact ⟨kept, meets⟩
  · have kept := (follows.upholds machine held).1
    unfold Monitor.watch
    split
    next halt halted =>
      exact .inr ⟨halt, observes.node n _ halt kept halted, rfl⟩
    next =>
      exact follows.agrees machine held

/-- Evaluation and execution follow the regime, by induction on
the depth of nesting. -/
theorem evaluate_execute
    {fuel : Nat}
    (small : fuel ≤ 2 ^ 60) :
    (∀ e, r.PermitsParts e.parts →
      r.Follows r.Outside (Value.Narrow r.narrow) (monitor.evaluate fuel e)
        (Script.evaluate fuel e)) ∧
    (∀ s : Statement, r.Permits s.nodes →
      r.Follows r.Outside r.Completes (monitor.execute fuel s)
        (Script.execute fuel s)) := by
  induction fuel with
  | zero =>
      constructor
      · intro e _
        unfold Monitor.evaluate Script.evaluate
        exact .throw .exhausted
      · intro s _
        unfold Monitor.execute Script.execute
        exact .throw .exhausted
  | succ fuel inductionHypothesis =>
      obtain ⟨evaluatesOutside, executesOutside⟩ := inductionHypothesis (by omega)
      have evaluates (e : Expression) (permits : r.PermitsParts e.parts) :=
        (evaluatesOutside e permits).inside
      have executes (s : Statement) (permits : r.Permits s.nodes) :=
        (executesOutside s permits).inside
      have few : Action.iterationBound fuel ≤ 2 ^ 100 := by
        unfold Action.iterationBound
        omega
      constructor
      · intro e permits
        unfold Monitor.evaluate Script.evaluate
        have isLine := r.line_of_node (node_of_parts permits)
        exact watch observes
          ((evaluateStep evaluates evaluates executes observes permits).atLine
            isLine) _
      · intro s permits
        unfold Monitor.execute Script.execute
        have isLine := r.line_of_node (permits _ s.mem_nodes)
        exact watch observes
          ((executeStep evaluates executes few permits).atLine isLine) _

/-- The run of a program follows the regime. -/
theorem runProgram
    {fuel : Nat}
    (small : fuel ≤ 2 ^ 60)
    {program : Program}
    (permits : r.Permits program.nodes) :
    r.Follows r.Outside (fun _ => True) (monitor.runProgram fuel program)
      (Script.runProgram fuel program) := by
  obtain ⟨_, executes⟩ := evaluate_execute observes small
  have each := permits_nodesOfAll.mp permits
  refine (forM program.functions fun entry member => ?_).bind fun _ _ =>
    (runAll fun s member => executes s (each s member)).bind
      fun completion ends => ?_
  · obtain ⟨s, inProgram, found⟩ := List.mem_filterMap.mp member
    obtain ⟨definition, defines, rfl⟩ := Option.map_eq_some_iff.mp found
    have inside := each s inProgram
    cases s with
    | define name parameters body line =>
        obtain rfl := Option.some.inj defines
        exact define (permits_cons.mp inside).2
    | _ =>
        cases defines
  · cases completion with
    | exit kind line =>
        exact .throw (.error rfl ends)
    | _ =>
        exact .pure trivial

end Runs

end Follows

end Regime

end GridScript.Script
