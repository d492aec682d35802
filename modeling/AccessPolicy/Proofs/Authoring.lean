import AccessPolicy.Proofs.DocumentRules

/-!
# Ways of authoring a policy

The rules of a document can be taken from the document, collected by a builder that is made from
it, or defined one by one in the blocks of a fresh builder.  It makes no difference which way is
taken.

**Blocks.**  `PolicyBuilder.defineObjects` enters the block of each object and defines its actions
one at a time, with the values that the document has for them.  A fresh builder has the rules of
the document in the end, or stops where the document does (`defineObjects_of_open`).

**Failures.**  All three ways end at the first action that has no rule, and fail with what its rule
fails with (`FirstFailure`).
-/

namespace AccessPolicy

/-- The values that a builder is given for an action. -/
def ActionDefinition.given (a : ActionDefinition) : Fields :=
  [("allow", a.allow), ("deny", a.deny), ("pre_hooks", a.preHooks), ("metadata", a.metadata),
    ("description", Value.ofOptionalText a.description)]

namespace PolicyBuilder

/-- Defines actions of an object one at a time. -/
def defineActions (b : PolicyBuilder) (object : String)
    (actions : List (String × ActionDefinition)) : Except Failure PolicyBuilder :=
  actions.foldlM (fun b a => Prod.fst <$> b.action object (.text a.1) a.2.given) b

/-- Enters the block of each object and defines its actions one at a time. -/
def defineObjects (b : PolicyBuilder) (objects : List (String × ObjectDefinition)) :
    Except Failure PolicyBuilder :=
  objects.foldlM
    (fun b o => do
      let b ← b.enterObject o.1 .null
      b.defineActions o.1 o.2.actions) b

/-- A builder with more rules. -/
def withRules (b : PolicyBuilder) (rules : List Rule) : PolicyBuilder :=
  { b with rules := b.rules ++ rules }

/-- Steps that add the rules of an item add the rules of all items, one after another. -/
theorem foldlM_withRules
    {α : Type}
    {step : PolicyBuilder → α → Except Failure PolicyBuilder}
    {make : α → Except Failure (List Rule)}
    (hstep : ∀ b : PolicyBuilder, b.closed = false → ∀ x, step b x = (make x).map b.withRules)
    {b : PolicyBuilder}
    (hopen : b.closed = false)
    (xs : List α) :
    xs.foldlM step b = (xs.mapM make).map fun rules => b.withRules rules.flatten := by
  induction xs generalizing b with
  | nil =>
      show _ = Except.ok (b.withRules [])
      rw [withRules, List.append_nil]
      rfl
  | cons x xs ih =>
      rw [List.foldlM_cons, hstep b hopen, List.mapM_cons]
      cases make x with
      | error e =>
          rfl
      | ok rules =>
          show xs.foldlM step (b.withRules rules) = _
          rw [ih (b := b.withRules rules) hopen]
          cases xs.mapM make with
          | error e =>
              rfl
          | ok more =>
              simp [bind, Except.bind, pure, Except.pure, Except.map, withRules]

section Blocks

variable {b : PolicyBuilder} (hopen : b.closed = false)
include hopen

/-- Defining one action adds its rule. -/
theorem action_of_open
    (object n : String)
    (a : ActionDefinition) :
    Prod.fst <$> b.action object (.text n) a.given =
      ((ActionEntry.rule ⟨object, n, a⟩).map ([·])).map b.withRules := by
  have hrules :
      actionRules object (.text n) a.given =
        (ActionEntry.rule ⟨object, n, a⟩).map ([·]) := by
    have hrule : actionRule object a.given (.text n) = ActionEntry.rule ⟨object, n, a⟩ :=
      rfl
    have hknown : (a.given.any fun f => !actionFields.contains f.1) = false := by
      simp [ActionDefinition.given, actionFields]
    have hnames : actionNames (.text n) = .ok [.text n] := rfl
    rw [actionRules, hknown, if_neg Bool.false_ne_true, hnames]
    show [Value.text n].mapM (actionRule object a.given) = _
    rw [List.mapM_cons, hrule]
    cases ActionEntry.rule ⟨object, n, a⟩ <;> rfl
  rw [action, hrules]
  cases ActionEntry.rule ⟨object, n, a⟩ with
  | error e =>
      rfl
  | ok r =>
      show Prod.fst <$> (b.addRules [r] >>= fun b => pure (b, [r])) = _
      rw [addRules_of_open hopen]
      rfl

/-- An open builder builds the policy of its rules, settings and types. -/
theorem build_of_open
    (env : Environment) :
    Prod.fst <$> b.build env = Policy.ofRules env b.rules b.config b.schemas := by
  rw [build, ensureOpen_of_open hopen]
  cases Policy.ofRules env b.rules b.config b.schemas <;> rfl

omit hopen in
theorem flatten_mapM_singleton
    {α : Type}
    (make : α → Except Failure Rule)
    (xs : List α) :
    (xs.mapM fun x => (make x).map ([·])).map List.flatten = xs.mapM make := by
  induction xs with
  | nil =>
      rfl
  | cons x xs ih =>
      rw [List.mapM_cons, List.mapM_cons, ← ih]
      cases make x with
      | error e =>
          rfl
      | ok r =>
          cases xs.mapM fun x => (make x).map ([·]) <;> rfl

/-- A builder on which the objects of a document are defined has the rules of the document. -/
theorem defineObjects_of_open
    (d : PolicyDocument) :
    b.defineObjects d.objects = d.toRules.map b.withRules := by
  have hactions :
      ∀ b : PolicyBuilder, b.closed = false → ∀ o : String × ObjectDefinition,
        b.defineActions o.1 o.2.actions =
          (PolicyDocument.rulesOfObject o.1 o.2).map b.withRules := by
    intro b hopen o
    have hrules :
        PolicyDocument.rulesOfObject o.1 o.2 =
          o.2.actions.mapM fun a => ActionEntry.rule ⟨o.1, a.1, a.2⟩ :=
      rfl
    rw [defineActions, foldlM_withRules (fun b hopen a => action_of_open hopen o.1 a.1 a.2) hopen,
      hrules, ← flatten_mapM_singleton]
    cases o.2.actions.mapM fun a => (ActionEntry.rule ⟨o.1, a.1, a.2⟩).map ([·]) <;> rfl
  have hobjects :
      ∀ b : PolicyBuilder, b.closed = false → ∀ o : String × ObjectDefinition,
        (b.enterObject o.1 .null >>= fun b => b.defineActions o.1 o.2.actions) =
          (PolicyDocument.rulesOfObject o.1 o.2).map b.withRules := by
    intro b hopen o
    rw [enterObject, ensureOpen_of_open hopen]
    exact hactions b hopen o
  rw [defineObjects, foldlM_withRules hobjects hopen, PolicyDocument.toRules]
  cases d.objects.mapM fun o => PolicyDocument.rulesOfObject o.1 o.2 <;> rfl

end Blocks

end PolicyBuilder

/-- The first action without a rule fails with this failure. -/
def ActionEntry.FirstFailure (entries : List ActionEntry) (e : Failure) : Prop :=
  ∃ before x after, entries = before ++ x :: after ∧
    (∀ y ∈ before, ∃ r, y.rule = .ok r) ∧ x.rule = .error e

namespace PolicyDocument

variable {d : PolicyDocument}

/-- A document has no rules iff some action has none, and then fails as the first such action. -/
theorem toRules_eq_error_iff
    {e : Failure} :
    d.toRules = .error e ↔ ActionEntry.FirstFailure d.entries e := by
  rw [toRules_eq_mapM, ← errorOf?_eq_some_iff, errorOf?_mapM, List.findSome?_eq_some_iff]
  simp only [errorOf?_eq_some_iff, errorOf?_eq_none_iff]
  constructor
  · rintro ⟨before, x, after, hsplit, hx, hbefore⟩
    exact ⟨before, x, after, hsplit, hbefore, hx⟩
  · rintro ⟨before, x, after, hsplit, hbefore, hx⟩
    exact ⟨before, x, after, hsplit, hx, hbefore⟩

/-- A document without types has none to import. -/
theorem addSchemaPaths_of_no_paths
    {env : Environment}
    {objects : List (String × ObjectDefinition)}
    (hpaths : ∀ o ∈ objects, o.2.schemaPath.getD "" = "")
    (b : PolicyBuilder) :
    PolicyBuilder.addSchemaPaths env b objects = .ok b := by
  induction objects with
  | nil =>
      rfl
  | cons o rest ih =>
      obtain ⟨object, definition⟩ := o
      have hrest := ih fun o ho => hpaths o (List.mem_cons_of_mem _ ho)
      rw [PolicyBuilder.addSchemaPaths]
      cases hpath : definition.schemaPath with
      | none =>
          exact hrest
      | some path =>
          obtain rfl : path = "" := by
            simpa [hpath] using hpaths (object, definition) List.mem_cons_self
          exact hrest

/-- **Three ways of authoring agree.**  The rules of a document without types are the same list
whether they are taken from the document, collected by the builder made from it, or defined action
by action in the blocks of a fresh builder; or else all three fail with what the first action
without a rule fails with.  So the same policy is built from the document, from its rules and by
either builder, or building fails alike. -/
theorem authorings_agree
    (hvalid : d.IsValid)
    (hpaths : ∀ o ∈ d.objects, o.2.schemaPath.getD "" = "")
    (env : Environment)
    (checkModule : Value) :
    ((∃ rules, List.Forall₂ (fun x r => x.rule = .ok r) d.entries rules ∧
        d.toRules = .ok rules ∧
        (PolicyBuilder.ofDocument env d checkModule).map PolicyBuilder.rules = .ok rules ∧
        ((PolicyBuilder.new (d.config checkModule)).defineObjects d.objects).map
          PolicyBuilder.rules = .ok rules) ∨
      ∃ e, ActionEntry.FirstFailure d.entries e ∧
        d.toRules = .error e ∧
        PolicyBuilder.ofDocument env d checkModule = .error e ∧
        (PolicyBuilder.new (d.config checkModule)).defineObjects d.objects = .error e) ∧
    Policy.ofDocument env d checkModule =
      (d.toRules >>= fun rules => Policy.ofRules env rules (d.config checkModule) []) ∧
    Policy.ofDocument env d checkModule =
      ((PolicyBuilder.new (d.config checkModule)).defineObjects d.objects >>= fun b =>
        Prod.fst <$> b.build env) := by
  have hdefined :
      (PolicyBuilder.new (d.config checkModule)).defineObjects d.objects =
        d.toRules.map (PolicyBuilder.new (d.config checkModule)).withRules :=
    PolicyBuilder.defineObjects_of_open rfl d
  have hdocument :
      PolicyBuilder.ofDocument env d checkModule =
        d.toRules.map (PolicyBuilder.new (d.config checkModule)).withRules :=
    ofDocument_eq hvalid.name_ne_empty (addSchemaPaths_of_no_paths hpaths _) rfl
  have hbuild :
      ∀ rules, Prod.fst <$> ((PolicyBuilder.new (d.config checkModule)).withRules rules).build env =
        Policy.ofRules env rules (d.config checkModule) [] :=
    fun _ => PolicyBuilder.build_of_open rfl env
  rw [Policy.ofDocument, hdefined, hdocument]
  refine ⟨?_, ?_, ?_⟩
  · cases hrules : d.toRules with
    | ok rules =>
        left
        rw [toRules_eq_mapM] at hrules
        exact ⟨rules, mapM_eq_ok_iff_forall₂.mp hrules, rfl, rfl, rfl⟩
    | error e =>
        right
        exact ⟨e, toRules_eq_error_iff.mp hrules, rfl, rfl, rfl⟩
  · cases d.toRules with
    | error e =>
        rfl
    | ok rules =>
        exact hbuild rules
  · cases d.toRules <;> rfl

/-- A document with an object that has two actions and one that has a single one. -/
def outlets : PolicyDocument where
  name := "press"
  checkModule := some "newsroom.checks"
  errorReason := .int 7
  errorMessage := ""
  objects :=
    [("kiosk", ⟨none, [("open", ⟨none, .bool true, .list [], .null, .list []⟩),
        ("close", ⟨some "at night", .list [], .text "locked", .list [], .list []⟩)]⟩),
      ("stand", ⟨some "", [("move", ⟨none, .list [.bool false], .list [], .list [],
        .list [.tuple [.text "k", .int 1]]⟩)]⟩)]

/-- The outlets with an action whose shorthand is none, behind one that is in order. -/
def misprint : PolicyDocument :=
  { outlets with
    objects := [("kiosk", ⟨none, [("open", ⟨none, .bool true, .list [], .null, .list []⟩),
      ("close", ⟨none, .int 5, .list [], .list [], .list []⟩),
      ("move", ⟨none, .list [], .int 6, .list [], .list []⟩)]⟩)] }

/-- The outlets have three rules, whichever way they are authored, and the misprint has none. -/
theorem outlets_agree :
    (∃ rules, rules.map Rule.name = ["kiosk_open", "kiosk_close", "stand_move"] ∧
      outlets.toRules = .ok rules ∧
      ((PolicyBuilder.new (outlets.config .null)).defineObjects outlets.objects).map
        PolicyBuilder.rules = .ok rules) ∧
    ∃ e, misprint.toRules = .error e ∧
      PolicyBuilder.ofDocument Policy.newsroom misprint .null = .error e ∧
      (PolicyBuilder.new (misprint.config .null)).defineObjects misprint.objects = .error e := by
  have hrule : ∀ x ∈ outlets.entries, ∃ r, x.rule = .ok r := by
    have hexists :
        ∀ x : ActionEntry, x.object ≠ "" → x.action ≠ "" → x.definition.Converts →
          x.definition.HasTextKeys → ∃ r, x.rule = .ok r := by
      intro x hobject haction hconverts hkeys
      obtain ⟨r, hr, _⟩ := ActionEntry.exists_rule hobject haction hconverts hkeys
      exact ⟨r, hr⟩
    rw [forall_mem_entries]
    simp only [outlets, List.forall_mem_cons, List.not_mem_nil, false_implies,
      implies_true, and_true]
    refine ⟨⟨hexists _ ?_ ?_ ?_ ?_, hexists _ ?_ ?_ ?_ ?_⟩, hexists _ ?_ ?_ ?_ ?_⟩
    · simp
    · simp
    · exact ⟨⟨_, rfl⟩, ⟨_, rfl⟩, ⟨_, rfl⟩, ⟨_, rfl⟩⟩
    · exact ActionDefinition.hasTextKeys_of_metadata rfl (by simp)
    · simp
    · simp
    · exact ⟨⟨_, rfl⟩, ⟨_, Shorthand.conditions_text (by simp)⟩, ⟨_, rfl⟩, ⟨_, rfl⟩⟩
    · exact ActionDefinition.hasTextKeys_of_metadata rfl (by simp)
    · simp
    · simp
    · exact ⟨⟨_, rfl⟩, ⟨_, rfl⟩, ⟨_, rfl⟩, ⟨_, rfl⟩⟩
    · exact ActionDefinition.hasTextKeys_of_metadata rfl (by simp)
  constructor
  · rcases (authorings_agree (d := outlets)
        ⟨by simp [outlets], by simp [outlets], by simp [outlets]⟩
        (by simp [outlets]) Policy.newsroom .null).1 with
      ⟨rules, hall, hrules, _, hdefined⟩ | ⟨e, ⟨before, x, after, hsplit, _, hx⟩, _⟩
    · refine ⟨rules, ?_, hrules, hdefined⟩
      exact map_name_of_declares (hall.imp fun _ _ h => (ActionEntry.rule_eq_ok_iff.mp h).2.2)
    · obtain ⟨r, hr⟩ := hrule x (by simp [hsplit])
      rw [hr] at hx
      cases hx
  · rcases (authorings_agree (d := misprint)
        ⟨by simp [misprint, outlets], by simp [misprint], by simp [misprint]⟩
        (by simp [misprint]) Policy.newsroom .null).1 with
      ⟨rules, hall, _⟩ | ⟨e, _, hrules, hdocument, hdefined⟩
    · obtain ⟨_, more, _, hmore, _⟩ := List.forall₂_cons_left_iff.mp hall
      obtain ⟨r, _, hr, _⟩ := List.forall₂_cons_left_iff.mp hmore
      have hallow := (ActionEntry.rule_eq_ok_iff.mp hr).2.2.allow
      cases hallow
    · exact ⟨e, hrules, hdocument, hdefined⟩

end PolicyDocument
end AccessPolicy
