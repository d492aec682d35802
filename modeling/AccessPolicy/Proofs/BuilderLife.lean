import AccessPolicy.PolicyBuilder
import AccessPolicy.Proofs.Decision
import Mathlib.Data.List.Induction

/-!
# The life of a builder

A builder is used in steps, any of which may fail: blocks of objects are entered, actions are
defined, finished rules and types are added, and a policy is built.  This module says what
any sequence of steps leads to.

**Steps.**  `step` gives the builder after an operation, also after one that fails: rules are
added one by one, so that a failure in between would leave the first of them behind.  That
this does not happen is `step_action`, and so an operation that fails changes nothing
(`step_of_error`).

**Open and closed.**  What a step does is said once for an open builder (`step_of_open`) and
once for a closed one (`step_of_closed`).

**Histories.**  `Accounts` says what a builder owes to the operations so far and their
replies.  A step keeps it, and so does every sequence of steps (`accounts_after`).
-/

namespace AccessPolicy

namespace PolicyBuilder

/-- What is done with a builder.  Actions are defined for the object of any block entered so
far, and a policy is built in the host program as it then is. -/
inductive Operation where
  | enter (object : String) (schema : Value)
  | action (object : String) (names : Value) (given : Fields)
  | addRule (r : Rule)
  | addSchema (object : String) (schema : Value)
  | build (env : Environment)

/-- What an operation gives if it succeeds. -/
inductive Reply where
  | done
  | defined (rules : List Rule)
  | built (p : Policy)

/-- Whether an operation is refused by a closed builder whatever it is given. -/
def Operation.isGuarded : Operation → Bool
  | .action .. => false
  | _ => true

/-- Adds rules one by one; those before a failure stay. -/
def addEach (b : PolicyBuilder) : List Rule → PolicyBuilder × Except Failure Unit
  | [] => (b, .ok ())
  | r :: rest =>
      match b.addRule r with
      | .ok b' => addEach b' rest
      | .error e => (b, .error e)

/-- The builder after an operation that changes nothing if it fails. -/
def settle (b : PolicyBuilder) :
    Except Failure (PolicyBuilder × Reply) → PolicyBuilder × Except Failure Reply
  | .ok (b', reply) => (b', .ok reply)
  | .error e => (b, .error e)

/-- The builder after an operation, and what the operation gave. -/
def step (b : PolicyBuilder) : Operation → PolicyBuilder × Except Failure Reply
  | .enter object schema => b.settle ((b.enterObject object schema).map fun b' => (b', .done))
  | .action object names given =>
      match actionRules object names given with
      | .ok rules => ((b.addEach rules).1, (b.addEach rules).2.map fun _ => .defined rules)
      | .error e => (b, .error e)
  | .addRule r => b.settle ((b.addRule r).map fun b' => (b', .done))
  | .addSchema object schema => b.settle ((b.addSchema object schema).map fun b' => (b', .done))
  | .build env => b.settle ((b.build env).map fun built => (built.2, .built built.1))

/-- The builder after some operations. -/
def after (b : PolicyBuilder) (ops : List Operation) : PolicyBuilder :=
  ops.foldl (fun b op => (b.step op).1) b

/-- Some operations together with what they gave. -/
def history : PolicyBuilder → List Operation → List (Operation × Except Failure Reply)
  | _, [] => []
  | b, op :: rest => (op, (b.step op).2) :: history (b.step op).1 rest

/-- The rules that an operation contributes: those of an addition or definition that
succeeded. -/
def added : Operation × Except Failure Reply → List Rule
  | (.addRule r, .ok _) => [r]
  | (.action .., .ok (.defined rules)) => rules
  | _ => []

/-- The type that an operation gives for an object, if it succeeded. -/
def registered : Operation × Except Failure Reply → List (String × Value)
  | (.enter _ .null, _) => []
  | (.enter object schema, .ok _) => [(object, schema)]
  | (.addSchema object schema, .ok _) => [(object, schema)]
  | _ => []

/-- Whether an operation is a build that succeeded. -/
def isBuilt : Operation × Except Failure Reply → Bool
  | (.build _, .ok _) => true
  | _ => false

section Steps

variable {b : PolicyBuilder}

/-- A builder that has registered a type for an object, unless there is one. -/
def withSchema (b : PolicyBuilder) (object : String) (schema : Value) : PolicyBuilder :=
  if (b.schemas.lookup object).isSome then b
  else { b with schemas := b.schemas ++ [(object, schema)] }

@[simp] theorem config_withSchema
    (object : String)
    (schema : Value) :
    (b.withSchema object schema).config = b.config := by
  unfold withSchema
  split <;> rfl

@[simp] theorem rules_withSchema
    (object : String)
    (schema : Value) :
    (b.withSchema object schema).rules = b.rules := by
  unfold withSchema
  split <;> rfl

@[simp] theorem closed_withSchema
    (object : String)
    (schema : Value) :
    (b.withSchema object schema).closed = b.closed := by
  unfold withSchema
  split <;> rfl

theorem ensureOpen_of_open
    (hopen : b.closed = false) :
    b.ensureOpen = .ok () := by
  simp [ensureOpen, hopen]

/-- The refusal of a closed builder. -/
def frozen (b : PolicyBuilder) : Failure :=
  Failure.ofCause (.policyFrozen (.text b.config.name))

theorem ensureOpen_of_closed
    (hclosed : b.closed = true) :
    b.ensureOpen = .error b.frozen := by
  simp [ensureOpen, hclosed, frozen]

theorem addRule_of_open
    (hopen : b.closed = false)
    (r : Rule) :
    b.addRule r = .ok { b with rules := b.rules ++ [r] } := by
  rw [addRule, ensureOpen_of_open hopen]
  rfl

theorem addRule_of_closed
    (hclosed : b.closed = true)
    (r : Rule) :
    b.addRule r = .error b.frozen := by
  rw [addRule, ensureOpen_of_closed hclosed]
  rfl

theorem addSchema_of_open
    (hopen : b.closed = false)
    (object : String)
    (schema : Value) :
    b.addSchema object schema = .ok (b.withSchema object schema) := by
  rw [addSchema, ensureOpen_of_open hopen, withSchema]
  show (if (b.schemas.lookup object).isSome then _ else _) = _
  split <;> rfl

theorem addEach_of_open
    (hopen : b.closed = false)
    (rules : List Rule) :
    b.addEach rules = ({ b with rules := b.rules ++ rules }, .ok ()) := by
  induction rules generalizing b with
  | nil =>
      simp [addEach]
  | cons r rest ih =>
      have hrest : ({ b with rules := b.rules ++ [r] } : PolicyBuilder).closed = false := hopen
      simp only [addEach, addRule_of_open hopen]
      rw [ih hrest]
      simp

theorem addRules_of_open
    (hopen : b.closed = false)
    (rules : List Rule) :
    b.addRules rules = .ok { b with rules := b.rules ++ rules } := by
  unfold addRules
  induction rules generalizing b with
  | nil =>
      simp
      rfl
  | cons r rest ih =>
      have hrest : ({ b with rules := b.rules ++ [r] } : PolicyBuilder).closed = false := hopen
      rw [List.foldlM_cons, addRule_of_open hopen]
      refine (ih hrest).trans ?_
      simp

/-- Defining actions adds all their rules or none, also when rules are added one by one. -/
theorem step_action
    (b : PolicyBuilder)
    (object : String)
    (names : Value)
    (given : Fields) :
    b.step (.action object names given) =
      b.settle ((b.action object names given).map fun x => (x.1, .defined x.2)) := by
  rw [step, action]
  cases actionRules object names given with
  | error e =>
      rfl
  | ok rules =>
      cases hclosed : b.closed with
      | false =>
          have hadd := addRules_of_open hclosed rules
          simp only [addEach_of_open hclosed, bind, Except.bind, hadd]
          rfl
      | true =>
          cases rules with
          | nil =>
              rfl
          | cons r rest =>
              have hadd : b.addRules (r :: rest) = .error b.frozen := by
                rw [addRules, List.foldlM_cons, addRule_of_closed hclosed]
                rfl
              simp only [addEach, addRule_of_closed hclosed, bind, Except.bind, hadd]
              rfl

/-- What an operation does to an open builder. -/
theorem step_of_open
    (hopen : b.closed = false)
    (op : Operation) :
    b.step op =
      match op with
      | .enter _ .null => (b, .ok .done)
      | .enter object schema => (b.withSchema object schema, .ok .done)
      | .action object names given =>
          match actionRules object names given with
          | .ok rules => ({ b with rules := b.rules ++ rules }, .ok (.defined rules))
          | .error e => (b, .error e)
      | .addRule r => ({ b with rules := b.rules ++ [r] }, .ok .done)
      | .addSchema object schema => (b.withSchema object schema, .ok .done)
      | .build env =>
          match Policy.ofRules env b.rules b.config b.schemas with
          | .ok p => ({ b with closed := true }, .ok (.built p))
          | .error e => (b, .error e) := by
  cases op with
  | enter object schema =>
      unfold step enterObject
      rw [ensureOpen_of_open hopen]
      cases schema with
      | null =>
          rfl
      | _ =>
          exact congrArg (fun x => b.settle (x.map fun b' => (b', Reply.done)))
            (addSchema_of_open hopen object _)
  | action object names given =>
      rw [step]
      simp only [addEach_of_open hopen]
      rfl
  | addRule r =>
      rw [step, addRule_of_open hopen]
      rfl
  | addSchema object schema =>
      rw [step, addSchema_of_open hopen]
      rfl
  | build env =>
      rw [step, build, ensureOpen_of_open hopen]
      simp only [bind, Except.bind]
      cases Policy.ofRules env b.rules b.config b.schemas <;> rfl

/-- A closed builder stays as it is.  It refuses everything but the definition of no actions. -/
theorem step_of_closed
    (hclosed : b.closed = true)
    (op : Operation) :
    (b.step op).1 = b ∧
      (op.isGuarded = true → (b.step op).2 = .error b.frozen) ∧
      ∀ reply, (b.step op).2 = .ok reply → added (op, .ok reply) = [] := by
  cases op with
  | action object names given =>
      refine ⟨?_, fun h => (by cases h), ?_⟩
      · rw [step]
        cases actionRules object names given with
        | error e =>
            rfl
        | ok rules =>
            cases rules with
            | nil =>
                rfl
            | cons r rest =>
                simp only [addEach, addRule_of_closed hclosed]
      · intro reply hreply
        rw [step] at hreply
        cases hrules : actionRules object names given with
        | error e =>
            rw [hrules] at hreply
            cases hreply
        | ok rules =>
            rw [hrules] at hreply
            cases rules with
            | nil =>
                cases hreply
                rfl
            | cons r rest =>
                simp only [addEach, addRule_of_closed hclosed] at hreply
                cases hreply
  | enter object schema =>
      have hstep : b.step (.enter object schema) = (b, .error b.frozen) := by
        unfold step enterObject
        rw [ensureOpen_of_closed hclosed]
        rfl
      simp [hstep]
  | addRule r =>
      have hstep : b.step (.addRule r) = (b, .error b.frozen) := by
        rw [step, addRule_of_closed hclosed]
        rfl
      simp [hstep]
  | addSchema object schema =>
      have hstep : b.step (.addSchema object schema) = (b, .error b.frozen) := by
        rw [step, addSchema, ensureOpen_of_closed hclosed]
        rfl
      simp [hstep]
  | build env =>
      have hstep : b.step (.build env) = (b, .error b.frozen) := by
        rw [step, build, ensureOpen_of_closed hclosed]
        rfl
      simp [hstep]

/-- Every operation settles what a change of the builder gives. -/
theorem exists_step_eq_settle
    (op : Operation) :
    ∃ change, b.step op = b.settle change := by
  cases op with
  | action object names given =>
      exact ⟨_, step_action b object names given⟩
  | _ =>
      exact ⟨_, rfl⟩

/-- An operation that fails changes nothing. -/
theorem step_of_error
    {op : Operation}
    {e : Failure}
    (h : (b.step op).2 = .error e) :
    (b.step op).1 = b := by
  obtain ⟨change, hchange⟩ := exists_step_eq_settle (b := b) op
  rw [hchange] at h ⊢
  cases change with
  | ok changed =>
      cases h
  | error e' =>
      rfl

/-- What actions are defined by an operation is what their shorthand reads as. -/
theorem actionRules_of_step
    {object : String}
    {names : Value}
    {given : Fields}
    {rules : List Rule}
    (h : (b.step (.action object names given)).2 = .ok (.defined rules)) :
    actionRules object names given = .ok rules := by
  rw [step_action] at h
  cases haction : b.action object names given with
  | error e =>
      rw [haction] at h
      cases h
  | ok defined =>
      rw [haction] at h
      cases h
      obtain ⟨rules, hrules, hadd⟩ := except_bind_eq_ok_iff.mp haction
      obtain ⟨b', _, heq⟩ := except_bind_eq_ok_iff.mp hadd
      cases heq
      exact hrules

/-- A definition of actions fails if one of their names, wherever it stands, does not give a
rule. -/
theorem step_of_bad_name
    {object : String}
    {names : Value}
    {given : Fields}
    {items : List Value}
    {n : Value}
    {e : Failure}
    (hnames : actionNames names = .ok items)
    (hn : n ∈ items)
    (he : actionRule object given n = .error e) :
    ∃ e', (b.step (.action object names given)).2 = .error e' := by
  have hfails : ∀ rules, actionRules object names given ≠ .ok rules := by
    intro rules h
    unfold actionRules at h
    split at h
    · cases h
    · rw [hnames] at h
      obtain ⟨r, _, hr⟩ := exists_of_mapM_eq_ok h hn
      rw [he] at hr
      cases hr
  rw [step_action, action]
  cases hrules : actionRules object names given with
  | ok rules =>
      exact absurd hrules (hfails rules)
  | error e' =>
      exact ⟨e', rfl⟩

end Steps

section Histories

theorem after_append
    (b : PolicyBuilder)
    (ops more : List Operation) :
    b.after (ops ++ more) = (b.after ops).after more :=
  List.foldl_append

theorem after_concat
    (b : PolicyBuilder)
    (ops : List Operation)
    (op : Operation) :
    b.after (ops ++ [op]) = ((b.after ops).step op).1 := by
  rw [after_append]
  rfl

theorem history_append
    (b : PolicyBuilder)
    (ops more : List Operation) :
    b.history (ops ++ more) = b.history ops ++ (b.after ops).history more := by
  induction ops generalizing b with
  | nil =>
      rfl
  | cons op ops ih =>
      exact congrArg _ (ih _)

/-- Whatever stands in a history was done with the builder of that time. -/
theorem exists_of_mem_history
    {b : PolicyBuilder}
    {ops : List Operation}
    {op : Operation}
    {reply : Except Failure Reply}
    (h : (op, reply) ∈ b.history ops) :
    ∃ before later, ops = before ++ op :: later ∧ reply = ((b.after before).step op).2 := by
  induction ops generalizing b with
  | nil =>
      cases h
  | cons first ops ih =>
      rcases List.mem_cons.mp h with heq | h
      · cases heq
        exact ⟨[], ops, rfl, rfl⟩
      · obtain ⟨before, later, rfl, hreply⟩ := ih h
        exact ⟨first :: before, later, rfl, hreply⟩

/-- A closed builder stays as it is, whatever is done with it. -/
theorem after_of_closed
    {b : PolicyBuilder}
    (hclosed : b.closed = true)
    (ops : List Operation) :
    b.after ops = b := by
  induction ops with
  | nil =>
      rfl
  | cons op ops ih =>
      show ((b.step op).1).after ops = b
      rw [(step_of_closed hclosed op).1]
      exact ih

/-- What a builder owes to the operations so far: its rules and types are those that were
contributed, in order, and it is closed iff a build succeeded, which no two builds did. -/
structure Accounts
    (config : PolicyConfig)
    (history : List (Operation × Except Failure Reply))
    (b : PolicyBuilder) : Prop where
  config_eq : b.config = config
  rules_eq : b.rules = history.flatMap added
  lookup_eq : ∀ object, b.schemas.lookup object = (history.flatMap registered).lookup object
  closed_eq : b.closed = history.any isBuilt
  builtOnce : history.countP isBuilt ≤ 1

/-- Registering a type for an object matters for an object without one only. -/
theorem lookup_withSchema
    (b : PolicyBuilder)
    (object other : String)
    (schema : Value) :
    (b.withSchema object schema).schemas.lookup other =
      (b.schemas ++ [(object, schema)]).lookup other := by
  unfold withSchema
  split
  · rename_i hsome
    rw [List.lookup_append]
    cases hother : b.schemas.lookup other with
    | some s =>
        rfl
    | none =>
        have hne : other ≠ object := by
          rintro rfl
          rw [hother] at hsome
          cases hsome
        simp [List.lookup_cons, beq_false_of_ne hne]
  · rfl

theorem accounts_new
    (config : PolicyConfig) :
    Accounts config [] (new config) where
  config_eq := rfl
  rules_eq := rfl
  lookup_eq _ := rfl
  closed_eq := rfl
  builtOnce := by
    simp

/-- A step of a closed builder adds nothing to its accounts. -/
theorem Accounts.step_of_closed
    {config : PolicyConfig}
    {past : List (Operation × Except Failure Reply)}
    {b : PolicyBuilder}
    (h : Accounts config past b)
    (hclosed : b.closed = true)
    (op : Operation) :
    Accounts config (past ++ [(op, (b.step op).2)]) (b.step op).1 := by
  obtain ⟨hsame, hrefused, hadded⟩ := PolicyBuilder.step_of_closed hclosed op
  have hnothing :
      added (op, (b.step op).2) = [] ∧ registered (op, (b.step op).2) = [] ∧
        isBuilt (op, (b.step op).2) = false := by
    cases op with
    | action object names given =>
        refine ⟨?_, ?_, rfl⟩
        · cases hreply : (b.step (.action object names given)).2 with
          | ok reply =>
              exact hadded reply hreply
          | error e =>
              rfl
        · cases (b.step (.action object names given)).2 <;> rfl
    | enter object schema =>
        rw [hrefused rfl]
        refine ⟨rfl, ?_, rfl⟩
        cases schema <;> rfl
    | addRule r =>
        rw [hrefused rfl]
        exact ⟨rfl, rfl, rfl⟩
    | addSchema object schema =>
        rw [hrefused rfl]
        exact ⟨rfl, rfl, rfl⟩
    | build env =>
        rw [hrefused rfl]
        exact ⟨rfl, rfl, rfl⟩
  rw [hsame]
  refine ⟨h.config_eq, ?_, ?_, ?_, ?_⟩
  · simp [h.rules_eq, hnothing]
  · simp [h.lookup_eq, hnothing]
  · simp [h.closed_eq, hnothing]
  · simp [List.countP_append, h.builtOnce, hnothing]

/-- A step of an open builder adds to its accounts what it contributes. -/
theorem Accounts.step_of_open
    {config : PolicyConfig}
    {past : List (Operation × Except Failure Reply)}
    {b : PolicyBuilder}
    (h : Accounts config past b)
    (hopen : b.closed = false)
    (op : Operation) :
    Accounts config (past ++ [(op, (b.step op).2)]) (b.step op).1 := by
  have hany : past.any isBuilt = false := by
    rw [← h.closed_eq, hopen]
  have hcount : past.countP isBuilt = 0 := by
    rw [List.countP_eq_zero]
    simpa using hany
  -- What is left to show of a step is what it adds to rules, types and builds.
  have haccounts :
      ∀ (b' : PolicyBuilder) (reply : Except Failure Reply),
        b'.config = b.config →
        b'.rules = b.rules ++ added (op, reply) →
        (∀ object, b'.schemas.lookup object =
          (b.schemas ++ registered (op, reply)).lookup object) →
        b'.closed = isBuilt (op, reply) →
        Accounts config (past ++ [(op, reply)]) b' := by
    intro b' reply hconfig hrules hlookup hclosed
    refine ⟨hconfig.trans h.config_eq, ?_, ?_, ?_, ?_⟩
    · simp [hrules, h.rules_eq]
    · intro object
      simp [hlookup, List.lookup_append, h.lookup_eq]
    · simp [hclosed, hany]
    · rw [List.countP_append, hcount, Nat.zero_add]
      exact List.countP_le_length
  rw [PolicyBuilder.step_of_open hopen op]
  cases op with
  | enter object schema =>
      cases schema with
      | null =>
          exact haccounts _ _ rfl (List.append_nil _).symm (by simp [registered]) hopen
      | _ =>
          exact haccounts _ _ (by simp) (by simp [added]) (lookup_withSchema b object · _)
            (by simp [isBuilt, hopen])
  | action object names given =>
      cases hrules : actionRules object names given with
      | ok rules =>
          simp only [hrules]
          exact haccounts _ _ rfl rfl (by simp [registered]) hopen
      | error e =>
          simp only [hrules]
          exact haccounts _ _ rfl (List.append_nil _).symm (by simp [registered]) hopen
  | addRule r =>
      exact haccounts _ _ rfl rfl (by simp [registered]) hopen
  | addSchema object schema =>
      exact haccounts _ _ (by simp) (by simp [added]) (lookup_withSchema b object · _)
        (by simp [isBuilt, hopen])
  | build env =>
      cases hbuild : Policy.ofRules env b.rules b.config b.schemas with
      | ok p =>
          simp only [hbuild]
          exact haccounts _ _ rfl (List.append_nil _).symm (by simp [registered]) rfl
      | error e =>
          simp only [hbuild]
          exact haccounts _ _ rfl (List.append_nil _).symm (by simp [registered]) hopen

/-- Whatever is done with a new builder, it owes what its history says. -/
theorem accounts_after
    (config : PolicyConfig)
    (ops : List Operation) :
    Accounts config ((new config).history ops) ((new config).after ops) := by
  induction ops using List.reverseRecOn with
  | nil =>
      exact accounts_new config
  | append_singleton ops op ih =>
      rw [history_append, after_concat]
      cases hclosed : ((new config).after ops).closed with
      | true =>
          exact ih.step_of_closed hclosed op
      | false =>
          exact ih.step_of_open hclosed op

end Histories

section Life

/-- A build that succeeds gives a policy of what was collected, and closes the builder. -/
theorem of_built
    {b : PolicyBuilder}
    {env : Environment}
    {p : Policy}
    (h : (b.step (.build env)).2 = .ok (.built p)) :
    (b.step (.build env)).1 = { b with closed := true } ∧
      p.table.rules = b.rules ∧ p.schemas = b.schemas ∧ p.config = b.config := by
  cases hclosed : b.closed with
  | true =>
      rw [(step_of_closed hclosed (.build env)).2.1 rfl] at h
      cases h
  | false =>
      rw [step_of_open hclosed] at h ⊢
      cases hbuild : Policy.ofRules env b.rules b.config b.schemas with
      | error e =>
          simp only [hbuild] at h
          cases h
      | ok built =>
          simp only [hbuild] at h ⊢
          cases h
          refine ⟨trivial, Policy.rules_eq_of_ofRules hbuild, ?_,
            (Policy.table_of_ofRules hbuild).2⟩
          unfold Policy.ofRules at hbuild
          obtain ⟨_, _, hparts⟩ := except_bind_eq_ok_iff.mp hbuild
          cases hparts
          rfl

/-- While no build has succeeded a builder is open, takes whatever is added, and builds the
policy of what was collected, if there is one. -/
theorem Accounts.open_of_not_built
    {config : PolicyConfig}
    {past : List (Operation × Except Failure Reply)}
    {b : PolicyBuilder}
    (haccounts : Accounts config past b)
    (hfailed : ∀ env reply, (.build env, reply) ∈ past → ∃ e, reply = .error e) :
    b.closed = false ∧
      (∀ r, b.step (.addRule r) = ({ b with rules := b.rules ++ [r] }, .ok .done)) ∧
      (∀ object schema, (b.step (.addSchema object schema)).2 = .ok .done ∧
        (b.step (.enter object schema)).2 = .ok .done) ∧
      ∀ env, (b.step (.build env)).2 =
        (Policy.ofRules env b.rules config b.schemas).map Reply.built := by
  have hopen : b.closed = false := by
    rw [haccounts.closed_eq, List.any_eq_false]
    rintro ⟨op, reply⟩ hmem
    cases op with
    | build env =>
        obtain ⟨e, rfl⟩ := hfailed env reply hmem
        simp [isBuilt]
    | _ =>
        simp [isBuilt]
  refine ⟨hopen, ?_, ?_, ?_⟩
  · intro r
    rw [PolicyBuilder.step_of_open hopen]
  · intro object schema
    rw [PolicyBuilder.step_of_open hopen, PolicyBuilder.step_of_open hopen]
    cases schema <;> exact ⟨rfl, rfl⟩
  · intro env
    rw [PolicyBuilder.step_of_open hopen, ← haccounts.config_eq]
    show (match Policy.ofRules env b.rules b.config b.schemas with
      | .ok p => (({ b with closed := true } : PolicyBuilder), Except.ok (Reply.built p))
      | .error e => (b, .error e)).2 = _
    cases Policy.ofRules env b.rules b.config b.schemas <;> rfl

end Life

end PolicyBuilder

end AccessPolicy
