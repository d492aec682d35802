import AccessPolicy.Proofs.BuilderLife
import AccessPolicy.Proofs.Requests
import AccessPolicy.Proofs.DocumentData
import AccessPolicy.Proofs.TableBuild

/-!
# The rules of a document

A document means one rule for each action of each object.  This module has the actions as a
list, what rule each of them means, and when the rules clash.

**Actions.**  `PolicyDocument.entries` are the actions in the order of the document, and
`PolicyDocument.toRules_eq_mapM` makes their rules one by one.

**Rules.**  An action has a rule iff its object and its name are not empty, its shorthand
converts, and the keys of its metadata are texts (`ActionEntry.rule_eq_ok_iff`).  The rule has
the name that object and action make when they are joined.

**Clashes.**  No object has two actions of one name, but joining is not injective: `a_b` and `c`
are joined like `a` and `b_c`.  Rules clash iff names do, and all actions with a name that
another one has are told (`Duplicates.pairs_eq_shared`).
-/

namespace AccessPolicy

/-- An action of an object in a document. -/
structure ActionEntry where
  object : String
  action : String
  definition : ActionDefinition

namespace ActionEntry

def pair (x : ActionEntry) : String × String :=
  (x.object, x.action)

/-- The name of the rule of an action. -/
def joinedName (x : ActionEntry) : String :=
  x.object ++ "_" ++ x.action

/-- The rule of an action, if it has one. -/
def rule (x : ActionEntry) : Except Failure Rule :=
  Rule.build (PolicyDocument.ruleFields x.object x.action x.definition)

end ActionEntry

namespace PolicyDocument

/-- The actions of some objects, in order. -/
def entriesOf (objects : List (String × ObjectDefinition)) : List ActionEntry :=
  objects.flatMap fun o => o.2.actions.map fun a => ⟨o.1, a.1, a.2⟩

/-- The actions of a document, in order. -/
def entries (d : PolicyDocument) : List ActionEntry :=
  entriesOf d.objects

/-- What holds of the actions of a document holds of those of its objects. -/
theorem forall_mem_entries
    {d : PolicyDocument}
    {P : ActionEntry → Prop} :
    (∀ x ∈ d.entries, P x) ↔ ∀ o ∈ d.objects, ∀ a ∈ o.2.actions, P ⟨o.1, a.1, a.2⟩ := by
  rw [entries, entriesOf, List.forall_mem_flatMap]
  simp only [List.forall_mem_map]

/-- The rules of a document are made action by action. -/
theorem toRules_eq_mapM
    (d : PolicyDocument) :
    d.toRules = d.entries.mapM ActionEntry.rule := by
  have hobject :
      ∀ o : String × ObjectDefinition,
        (o.2.actions.map fun a => (⟨o.1, a.1, a.2⟩ : ActionEntry)).mapM ActionEntry.rule =
          rulesOfObject o.1 o.2 := by
    intro o
    rw [List.mapM_map]
    rfl
  rw [toRules, entries, entriesOf]
  induction d.objects with
  | nil =>
      rfl
  | cons o rest ih =>
      rw [List.flatMap_cons, List.mapM_append, ← ih, hobject, List.mapM_cons]
      simp only [bind_assoc, pure_bind, List.flatten_cons]

theorem IsValid.entries_nodup
    {d : PolicyDocument}
    (h : d.IsValid) :
    (d.entries.map ActionEntry.pair).Nodup := by
  have hmap :
      d.entries.map ActionEntry.pair =
        d.objects.flatMap fun o => o.2.actions.map fun a => (o.1, a.1) := by
    simp only [entries, entriesOf, List.map_flatMap, List.map_map]
    rfl
  rw [hmap, List.nodup_flatMap]
  constructor
  · intro o ho
    have hpairs :
        (o.2.actions.map fun a => (o.1, a.1)) = (o.2.actions.map Prod.fst).map (Prod.mk o.1) := by
      rw [List.map_map]
      rfl
    rw [hpairs]
    exact (h.actions_nodup o ho).map fun _ _ heq => congrArg Prod.snd heq
  · refine (List.pairwise_map.mp h.objects_nodup).imp ?_
    intro o o' hne p hp hp'
    obtain ⟨a, _, rfl⟩ := List.mem_map.mp hp
    obtain ⟨a', _, heq⟩ := List.mem_map.mp hp'
    exact hne (congrArg Prod.fst heq).symm

end PolicyDocument

/-- The shorthand of an action converts. -/
structure ActionDefinition.Converts (a : ActionDefinition) : Prop where
  allow : ∃ groups, Shorthand.conditions a.allow = .ok groups
  deny : ∃ groups, Shorthand.conditions a.deny = .ok groups
  preHooks : ∃ hooks, Shorthand.hooks a.preHooks = .ok hooks
  metadata : ∃ pairs, Shorthand.metadata a.metadata = .ok pairs

/-- The keys of the metadata of an action are read as texts. -/
def ActionDefinition.HasTextKeys (a : ActionDefinition) : Prop :=
  ∀ pairs, Shorthand.metadata a.metadata = .ok pairs →
    ∀ p ∈ pairs, ∃ key, Verdict.text p.1 = .accepted key

theorem ActionDefinition.hasTextKeys_of_metadata
    {a : ActionDefinition}
    {pairs : Entries}
    (hpairs : Shorthand.metadata a.metadata = .ok pairs)
    (hkeys : ∀ p ∈ pairs, ∃ key, p.1 = .text key) :
    a.HasTextKeys := by
  intro pairs' hpairs' p hp
  obtain rfl := Except.ok.inj (hpairs.symm.trans hpairs')
  obtain ⟨key, hkey⟩ := hkeys p hp
  exact ⟨key, hkey ▸ Verdict.text_text key⟩

/-- A text stands for one group with the check of this name. -/
theorem Shorthand.conditions_text
    {name : String}
    (hname : name ≠ "") :
    conditions (.text name) = .ok [[.named name]] := by
  have hnamed : named (.text name) = .ok (.named name) := by
    show (Check.readNamed (Value.textEntries [("name", .text name)])).toExcept _ = _
    rw [Verdict.toExcept_eq_ok_iff, Check.readNamed, Verdict.noOthers_textEntries (by simp),
      Verdict.required_textEntries rfl (Verdict.name_text hname)]
    rfl
  have hcheck : check (.text name) = .ok (.named name) := hnamed
  have hgroup : group (.text name) = .ok [.named name] := by
    show (check (.text name)).map ([·]) = _
    rw [hcheck]
    rfl
  show (group (.text name)).map ([·]) = _
  rw [hgroup]
  rfl

namespace Rule

/-- Pairs of metadata are read iff their keys are texts. -/
theorem readPairs_eq_accepted_iff
    {i : Nat}
    {pairs : Entries}
    {fields : Fields} :
    readPairs i pairs = .accepted fields
      ↔
    List.Forall₂ (fun p f => Verdict.text p.1 = .accepted f.1 ∧ f.2 = p.2) pairs fields := by
  induction pairs generalizing i fields with
  | nil =>
      simp [readPairs, eq_comm]
  | cons p rest ih =>
      obtain ⟨k, v⟩ := p
      rw [readPairs, Verdict.seq_eq_accepted_iff, List.forall₂_cons_left_iff]
      constructor
      · rintro ⟨g, more, hg, hmore, rfl⟩
        obtain ⟨key, hkey, rfl⟩ := Verdict.map_eq_accepted_iff.mp hg
        rw [Verdict.under_eq_accepted_iff, Verdict.under_eq_accepted_iff] at hkey
        exact ⟨(key, v), more, ⟨hkey, rfl⟩, ih.mp hmore, rfl⟩
      · rintro ⟨⟨key, w⟩, more, ⟨hkey, rfl⟩, hmore, rfl⟩
        refine ⟨_, more, Verdict.map_eq_accepted_iff.mpr ⟨key, ?_, rfl⟩, ih.mpr hmore, rfl⟩
        rwa [Verdict.under_eq_accepted_iff, Verdict.under_eq_accepted_iff]

theorem readMetadata_eq_accepted_iff
    {v : Value}
    {fields : Fields} :
    readMetadata v = .accepted fields
      ↔
    ∃ pairs, Shorthand.metadata v = .ok pairs ∧
      List.Forall₂ (fun p f => Verdict.text p.1 = .accepted f.1 ∧ f.2 = p.2) pairs fields := by
  rw [readMetadata]
  cases hmeta : Verdict.ofConversion (Shorthand.metadata v) with
  | accepted pairs =>
      rw [Verdict.ofConversion_eq_accepted_iff] at hmeta
      simp only [hmeta, Except.ok.injEq, exists_eq_left', readPairs_eq_accepted_iff]
  | _ =>
      constructor
      · intro h
        cases h
      · rintro ⟨pairs, hpairs, _⟩
        rw [Verdict.ofConversion_eq_accepted_iff.mpr hpairs] at hmeta
        cases hmeta

end Rule

/-- A rule is the one that an action declares: it has the joined name, and the conditions, hooks
and metadata that the shorthand of the action converts to. -/
structure ActionEntry.Declares (x : ActionEntry) (r : Rule) : Prop where
  object_eq : r.object = x.object
  action_eq : r.action = x.action
  name_eq : r.name = x.joinedName
  allow : Shorthand.conditions x.definition.allow = .ok r.allow
  deny : Shorthand.conditions x.definition.deny = .ok r.deny
  preHooks : Shorthand.hooks x.definition.preHooks = .ok r.preHooks
  metadata : ∃ pairs, Shorthand.metadata x.definition.metadata = .ok pairs ∧
    List.Forall₂ (fun p f => Verdict.text p.1 = .accepted f.1 ∧ f.2 = p.2) pairs r.metadata
  description_eq : r.description = x.definition.description

namespace ActionEntry

variable {x : ActionEntry}

/-- The fields of the rule of an action, with the name that object and action make. -/
def fields (x : ActionEntry) : Fields :=
  PolicyDocument.ruleFields x.object x.action x.definition ++ [("name", .text x.joinedName)]

theorem withDefaultName_ruleFields :
    Rule.withDefaultName
        (Value.textEntries (PolicyDocument.ruleFields x.object x.action x.definition)) =
      Value.textEntries x.fields := by
  have hnew : "name" ∉ Entries.names
      (Value.textEntries (PolicyDocument.ruleFields x.object x.action x.definition)) := by
    simp [Value.textEntries, PolicyDocument.ruleFields, Entries.names, Value.text?]
  have hname : Fields.get? (PolicyDocument.ruleFields x.object x.action x.definition) "name" =
      none := by
    simp [PolicyDocument.ruleFields, Fields.get?]
  have htext : (Value.text "name").text? = some "name" := rfl
  have hset := Entries.set_of_not_mem_names htext hnew (.text x.joinedName)
  simp only [Rule.withDefaultName, getText?_textEntries, hname]
  rw [if_neg (by simp [Value.isTrue])]
  refine Eq.trans ?_ (hset.trans ?_)
  · rfl
  · simp [fields, Value.textEntries]

theorem joinedName_ne_empty :
    x.joinedName ≠ "" := by
  intro h
  have hlength := congrArg String.length h
  simp only [joinedName, String.length_append] at hlength
  have hjoint : "_".length = 1 := rfl
  have hempty : "".length = 0 := rfl
  omega

/-- An action has a rule iff its object and its name are not empty and the rule declares what the
action does. -/
theorem rule_eq_ok_iff
    {r : Rule} :
    x.rule = .ok r ↔ x.object ≠ "" ∧ x.action ≠ "" ∧ x.Declares r := by
  have hname :
      ∀ s t, Verdict.name (.text s) = .accepted t ↔ s = t ∧ s ≠ "" := by
    intro s t
    rw [Verdict.name_eq_accepted_iff]
    constructor
    · rintro ⟨h, hne⟩
      cases h
      exact ⟨rfl, hne⟩
    · rintro ⟨rfl, hne⟩
      exact ⟨rfl, hne⟩
  have hdescription :
      ∀ o, Verdict.optionalText (Value.ofOptionalText o) = .accepted o := by
    rintro (_ | s)
    · rfl
    · rfl
  have hothers :
      ∀ e ∈ Value.textEntries x.fields, ∃ s, e.1.text? = some s ∧ s ∈ Rule.fieldNames := by
    simp [fields, Value.textEntries, PolicyDocument.ruleFields, Value.text?, Rule.fieldNames]
  have hget :
      ∀ n, Fields.get? x.fields n =
        (([("object", .text x.object), ("action", .text x.action), ("allow", x.definition.allow),
          ("deny", x.definition.deny), ("pre_hooks", x.definition.preHooks),
          ("metadata", x.definition.metadata),
          ("description", Value.ofOptionalText x.definition.description),
          ("name", .text x.joinedName)] : Fields).find? fun f => f.1 == n).map (·.2) :=
    fun _ => rfl
  rw [rule, Rule.build, Verdict.toExcept_eq_ok_iff, Rule.read, withDefaultName_ruleFields,
    Rule.readNamed]
  simp only [Verdict.seqLeft_eq_accepted_iff, Verdict.seq_eq_accepted_iff,
    Verdict.map_eq_accepted_iff, Verdict.required_eq_accepted_iff,
    Verdict.optional_eq_accepted_iff, Verdict.noOthers_eq_accepted_iff, getText?_textEntries, hget]
  simp only [↓existsAndEq, BEq.rfl, List.find?_cons_of_pos, Option.map_some, Option.some.injEq,
    exists_eq_left', hname, ne_eq, and_true, String.reduceBEq, Bool.false_eq_true,
    not_false_eq_true, List.find?_cons_of_neg, Rule.readConditions,
    Verdict.ofConversion_eq_accepted_iff, reduceCtorEq, List.nil_eq, false_and, or_false,
    Rule.readHooks, Rule.readMetadata_eq_accepted_iff, hdescription, Verdict.accepted.injEq,
    true_and, exists_const]
  constructor
  · rintro ⟨⟨metadata, hooks, deny, allow, ⟨⟨⟨⟨⟨⟨hobject, haction⟩, _⟩, hallow⟩, hdeny⟩, hhooks⟩,
      hmetadata⟩, rfl⟩, _⟩
    exact ⟨hobject, haction, rfl, rfl, rfl, hallow, hdeny, hhooks, hmetadata, rfl⟩
  · rintro ⟨hobject, haction, hdeclares⟩
    refine ⟨⟨r.metadata, r.preHooks, r.deny, r.allow, ⟨⟨⟨⟨⟨⟨hobject, haction⟩,
      x.joinedName_ne_empty⟩, hdeclares.allow⟩, hdeclares.deny⟩, hdeclares.preHooks⟩,
      hdeclares.metadata⟩, ?_⟩, hothers⟩
    rw [← hdeclares.object_eq, ← hdeclares.action_eq, ← hdeclares.name_eq,
      ← hdeclares.description_eq]

/-- An action has a rule if its object and its name are not empty, its shorthand converts, and
the keys of its metadata are texts. -/
theorem exists_rule
    (hobject : x.object ≠ "")
    (haction : x.action ≠ "")
    (hconverts : x.definition.Converts)
    (hkeys : x.definition.HasTextKeys) :
    ∃ r, x.rule = .ok r ∧ x.Declares r := by
  obtain ⟨allow, hallow⟩ := hconverts.allow
  obtain ⟨deny, hdeny⟩ := hconverts.deny
  obtain ⟨hooks, hhooks⟩ := hconverts.preHooks
  obtain ⟨pairs, hpairs⟩ := hconverts.metadata
  have hread :
      ∃ metadata : Fields,
        List.Forall₂ (fun p f => Verdict.text p.1 = .accepted f.1 ∧ f.2 = p.2) pairs metadata := by
    have hall := hkeys pairs hpairs
    clear hpairs
    induction pairs with
    | nil =>
        exact ⟨[], .nil⟩
    | cons p rest ih =>
        obtain ⟨key, hkey⟩ := hall p List.mem_cons_self
        obtain ⟨more, hmore⟩ := ih fun q hq => hall q (List.mem_cons_of_mem _ hq)
        exact ⟨(key, p.2) :: more, .cons ⟨hkey, rfl⟩ hmore⟩
  obtain ⟨metadata, hmetadata⟩ := hread
  have hdeclares :
      x.Declares ⟨x.object, x.action, x.joinedName, allow, deny, hooks, metadata,
        x.definition.description⟩ :=
    ⟨rfl, rfl, rfl, hallow, hdeny, hhooks, ⟨pairs, hpairs, hmetadata⟩, rfl⟩
  exact ⟨_, rule_eq_ok_iff.mpr ⟨hobject, haction, hdeclares⟩, hdeclares⟩

end ActionEntry

namespace Duplicates

section Shared

variable {α β γ : Type}

theorem distinct_of_nodup
    [DecidableEq α]
    {xs : List α}
    (h : xs.Nodup) :
    distinct xs = xs := by
  induction xs with
  | nil =>
      rfl
  | cons x xs ih =>
      obtain ⟨hx, hxs⟩ := List.nodup_cons.mp h
      rw [distinct, ih hxs, List.filter_eq_self.mpr]
      rintro y hy
      simp only [decide_eq_true_eq]
      rintro rfl
      exact hx hy

/-- A value is counted more than once iff an item with another label has it. -/
theorem one_lt_count_iff
    [DecidableEq β]
    {label : γ → α}
    {f : γ → β}
    {xs : List γ}
    (hnodup : (xs.map label).Nodup)
    {x : γ}
    (hx : x ∈ xs) :
    1 < (xs.map f).count (f x) ↔ ∃ y ∈ xs, label y ≠ label x ∧ f y = f x := by
  obtain ⟨before, after, rfl⟩ := List.append_of_mem hx
  have hother : ∀ y ∈ before ++ after, label y ≠ label x := by
    have hcons := (List.perm_middle.map label).nodup_iff.mp hnodup
    intro y hy heq
    exact (List.nodup_cons.mp hcons).1 (heq ▸ List.mem_map_of_mem hy)
  have hcount :
      ((before ++ x :: after).map f).count (f x) = ((before ++ after).map f).count (f x) + 1 := by
    rw [(List.perm_middle.map f).count_eq, List.map_cons, List.count_cons_self]
  have hpos := List.count_pos_iff (a := f x) (l := (before ++ after).map f)
  rw [hcount]
  constructor
  · intro h
    obtain ⟨y, hy, hfy⟩ := List.mem_map.mp (hpos.mp (by omega))
    exact ⟨y, List.perm_middle.mem_iff.mpr (List.mem_cons_of_mem x hy), hother y hy, hfy⟩
  · rintro ⟨y, hy, hne, hfy⟩
    have hrest : y ∈ before ++ after := by
      rcases List.mem_cons.mp (List.perm_middle.mem_iff.mp hy) with rfl | hy
      · exact absurd rfl hne
      · exact hy
    have h := hpos.mpr (List.mem_map.mpr ⟨y, hrest, hfy⟩)
    omega

end Shared

/-- Among rules with distinct pairs, the pairs at fault are those of the rules whose name another
rule has, in order. -/
theorem pairs_eq_shared
    {rules : List Rule}
    (hnodup : (rules.map pair).Nodup) :
    pairs rules =
      (rules.filter fun r =>
        decide (∃ r' ∈ rules, pair r' ≠ pair r ∧ r'.name = r.name)).map pair := by
  have hrepeated : repeatedPairs rules = [] := by
    simp only [repeatedPairs, count_le_one_of_nodup hnodup, decide_false, List.filter_false]
  have hfilter :
      (rules.filter fun r => decide (1 < (rules.map Rule.name).count r.name)) =
        rules.filter fun r => decide (∃ r' ∈ rules, pair r' ≠ pair r ∧ r'.name = r.name) :=
    List.filter_congr fun r hr => decide_eq_decide.mpr (one_lt_count_iff hnodup hr)
  rw [pairs, hrepeated, clashingPairs, hfilter]
  simp only [List.contains_nil, Bool.not_false, List.filter_true, List.nil_append]
  exact distinct_of_nodup ((List.filter_sublist.map pair).nodup hnodup)

end Duplicates

namespace PolicyDocument

/-- The actions of a document whose joined name another one has, in order. -/
def clashing (d : PolicyDocument) : List ActionEntry :=
  d.entries.filter fun x =>
    decide (∃ y ∈ d.entries, y.pair ≠ x.pair ∧ y.joinedName = x.joinedName)

/-- What related lists have in common is common to the parts that related conditions select. -/
theorem map_filter_of_forall₂
    {α β γ : Type}
    {R : α → β → Prop}
    {xs : List α}
    {ys : List β}
    (hall : List.Forall₂ R xs ys)
    {P : α → Bool}
    {Q : β → Bool}
    {f : α → γ}
    {g : β → γ}
    (hPQ : ∀ x y, R x y → P x = Q y)
    (hfg : ∀ x y, R x y → f x = g y) :
    (xs.filter P).map f = (ys.filter Q).map g := by
  induction hall with
  | nil =>
      rfl
  | cons h _ ih =>
      rw [List.filter_cons, List.filter_cons, hPQ _ _ h]
      split
      · rw [List.map_cons, List.map_cons, ih, hfg _ _ h]
      · exact ih

section Clashes

variable {d : PolicyDocument} {rules : List Rule}
variable (hall : List.Forall₂ ActionEntry.Declares d.entries rules)
include hall

theorem map_label_of_declares :
    (rules.map fun r => (Duplicates.pair r, r.name)) =
      d.entries.map fun x => (x.pair, x.joinedName) := by
  generalize d.entries = entries at hall
  induction hall with
  | nil =>
      rfl
  | cons h _ ih =>
      rw [List.map_cons, List.map_cons, ih, Duplicates.pair, h.object_eq, h.action_eq, h.name_eq,
        ActionEntry.pair]

theorem map_pair_of_declares :
    rules.map Duplicates.pair = d.entries.map ActionEntry.pair := by
  have hfst := congrArg (List.map Prod.fst) (map_label_of_declares hall)
  simpa only [List.map_map, Function.comp_def] using hfst

theorem map_name_of_declares :
    rules.map Rule.name = d.entries.map ActionEntry.joinedName := by
  have hsnd := congrArg (List.map Prod.snd) (map_label_of_declares hall)
  simpa only [List.map_map, Function.comp_def] using hsnd

/-- The rules of a document clash where the joined names of its actions do. -/
theorem pairs_of_declares
    (hvalid : d.IsValid) :
    Duplicates.pairs rules = d.clashing.map ActionEntry.pair := by
  have hlabels := map_label_of_declares hall
  have hpairs := map_pair_of_declares hall
  have hshared :
      ∀ S : (String × String) × String → Prop,
        (∃ y ∈ d.entries, S (y.pair, y.joinedName)) ↔
          ∃ r ∈ rules, S (Duplicates.pair r, r.name) := by
    intro S
    have hmem : (∃ l ∈ d.entries.map fun x => (x.pair, x.joinedName), S l) ↔
        ∃ l ∈ rules.map fun r => (Duplicates.pair r, r.name), S l := by
      rw [hlabels]
    simpa only [List.mem_map, exists_exists_and_eq_and] using hmem
  rw [Duplicates.pairs_eq_shared (hpairs ▸ hvalid.entries_nodup), clashing]
  symm
  refine map_filter_of_forall₂ hall ?_ ?_
  · intro x r h
    rw [decide_eq_decide, h.name_eq, Duplicates.pair, h.object_eq, h.action_eq]
    exact hshared fun l => l.1 ≠ x.pair ∧ l.2 = x.joinedName
  · intro x r h
    rw [Duplicates.pair, h.object_eq, h.action_eq, ActionEntry.pair]

end Clashes

/-- The settings of the policy of a document; a check module beside it wins over its own. -/
def config (d : PolicyDocument) (checkModule : Value) : PolicyConfig where
  name := d.name
  checkModule :=
    match checkModule with
    | .null => Value.ofOptionalText d.checkModule
    | m => m
  errorReason := d.errorReason
  errorMessage := d.errorMessage

/-- The types that a document names by path can be imported. -/
def SchemasImport (env : Environment) (d : PolicyDocument) : Prop :=
  ∀ o ∈ d.objects, ∀ path, o.2.schemaPath = some path → path ≠ "" →
    ∃ v, env.importPath path = .ok v

section Building

variable {env : Environment} {d : PolicyDocument} {checkModule : Value}

/-- Importing the types of a document adds nothing but types. -/
theorem exists_addSchemaPaths
    {objects : List (String × ObjectDefinition)}
    (himport : ∀ o ∈ objects, ∀ path, o.2.schemaPath = some path → path ≠ "" →
      ∃ v, env.importPath path = .ok v)
    {b : PolicyBuilder}
    (hopen : b.closed = false) :
    ∃ schemas, PolicyBuilder.addSchemaPaths env b objects = .ok { b with schemas } := by
  induction objects generalizing b with
  | nil =>
      exact ⟨b.schemas, rfl⟩
  | cons o rest ih =>
      obtain ⟨object, definition⟩ := o
      have hrest := fun o ho => himport o (List.mem_cons_of_mem _ ho)
      rw [PolicyBuilder.addSchemaPaths]
      cases hpath : definition.schemaPath with
      | none =>
          exact ih hrest hopen
      | some path =>
          by_cases hempty : path = ""
          · subst hempty
            exact ih hrest hopen
          · obtain ⟨v, hv⟩ := himport (object, definition) List.mem_cons_self path hpath hempty
            have hfalse : ¬ path.isEmpty = true := by
              simpa using hempty
            have hopen' : (b.withSchema object v).closed = false := by
              rw [PolicyBuilder.closed_withSchema, hopen]
            obtain ⟨schemas, hschemas⟩ := ih hrest hopen'
            refine ⟨schemas, ?_⟩
            simp only [if_neg hfalse, hv, PolicyBuilder.addSchema_of_open hopen, bind, Except.bind,
              hschemas]
            unfold PolicyBuilder.withSchema
            split <;> rfl

/-- A document is built from its rules with its settings, once its types are imported. -/
theorem ofDocument_eq
    (hname : d.name ≠ "")
    {b : PolicyBuilder}
    (hb : PolicyBuilder.addSchemaPaths env (.new (d.config checkModule)) d.objects = .ok b)
    (hopen : b.closed = false) :
    PolicyBuilder.ofDocument env d checkModule =
      d.toRules.map fun rules => { b with rules := b.rules ++ rules } := by
  have hconfig :
      PolicyBuilder.configOfDocument d checkModule = .ok (d.config checkModule) :=
    PolicyConfig.build_eq_ok hname _ _ _
  rw [PolicyBuilder.ofDocument, hconfig]
  simp only [bind, Except.bind, hb]
  cases d.toRules with
  | error e =>
      rfl
  | ok rules =>
      exact PolicyBuilder.addRules_of_open hopen rules

theorem exists_policyOfDocument_eq
    (hname : d.name ≠ "")
    (himport : d.SchemasImport env) :
    ∃ schemas, Policy.ofDocument env d checkModule =
      d.toRules >>= fun rules => Policy.ofRules env rules (d.config checkModule) schemas := by
  obtain ⟨schemas, hschemas⟩ :=
    exists_addSchemaPaths himport (b := .new (d.config checkModule)) rfl
  refine ⟨schemas, ?_⟩
  rw [Policy.ofDocument, ofDocument_eq hname hschemas rfl]
  cases d.toRules with
  | error e =>
      rfl
  | ok rules =>
      simp only [Except.map, bind, Except.bind, PolicyBuilder.build, PolicyBuilder.ensureOpen,
        PolicyBuilder.new, List.nil_append]
      cases Policy.ofRules env rules (d.config checkModule) schemas <;> rfl

end Building

end PolicyDocument

/-- A failure says that rules are duplicates. -/
def Failure.TellsDuplicateRules (e : Failure) : Prop :=
  ∃ policy pairs, e = .ofCause (.duplicateRule policy pairs)

section Failures

variable {env : Environment}

/-- An import fails with nothing that has a code. -/
theorem Environment.importPath_ne_fault
    (path : String)
    (f : Fault) :
    env.importPath path ≠ .error (.fault f) := by
  have hfailure : ∀ name parent, env.importFailure name parent ≠ .fault f := by
    intro name parent h
    unfold Environment.importFailure at h
    split at h <;> cases h
  have hmissing : ∀ parts, env.missingModule parts ≠ .fault f := by
    intro parts
    fun_induction Environment.missingModule env parts with
    | case1 => exact fun h => nomatch h
    | case2 => exact hfailure _ _
    | case3 => exact hfailure _ _
    | case4 _ _ _ _ _ ih => exact ih
  have hmodule : ∀ path, env.importModule path ≠ .error (.fault f) := by
    intro path h
    unfold Environment.importModule at h
    split at h
    · cases h
    · split at h
      · cases h
      · split at h
        · cases h
        · exact hmissing _ (Except.error.inj h)
  intro h
  unfold Environment.importPath at h
  split at h
  · cases h
  · rename_i e hpath
    split at h
    · dsimp only at h
      split at h
      · cases h
        exact hmodule path hpath
      · rename_i last parents _ _ _
        cases hparent : env.importModule (Text.join "." parents.reverse) with
        | error e =>
            rw [hparent] at h
            cases h
            exact hmodule _ hparent
        | ok m =>
            rw [hparent] at h
            simp only [bind, Except.bind] at h
            split at h <;> cases h
    · cases h
      exact hmodule path hpath

theorem Environment.resolve_ne_fault
    (module : Value)
    (name : String)
    (f : Fault) :
    env.resolve module name ≠ .error (.fault f) := by
  intro h
  unfold Environment.resolve at h
  split at h
  · cases h
  · split at h
    · rename_i path _
      cases himport : env.importPath path with
      | error e =>
          rw [himport] at h
          cases h
          exact env.importPath_ne_fault path f himport
      | ok m =>
          rw [himport] at h
          cases h
    · cases h

theorem Duplicates.not_tells_checkFailure
    (policy : String)
    (r : Rule)
    (field : String)
    (cs : Group) :
    ¬ (checkFailure policy r field cs).TellsDuplicateRules := by
  rintro ⟨p, v, h⟩
  unfold checkFailure at h
  split at h
  · have hcause := congrArg Fault.cause (Failure.fault.inj h)
    simp at hcause
  · cases h

theorem Condition.not_tells_unknownCheck
    (module : Value)
    (rule policy name : String) :
    ¬ (unknownCheck module rule policy name).TellsDuplicateRules := by
  rintro ⟨p, v, h⟩
  unfold unknownCheck at h
  split at h
  · have hcause := congrArg Fault.cause (Failure.fault.inj h)
    simp at hcause
  · cases h

theorem Hydration.not_tells_unknownHook
    (module : Value)
    (rule policy : String)
    (k : Hook) :
    ¬ (unknownHook module rule policy k).TellsDuplicateRules := by
  rintro ⟨p, v, h⟩
  unfold unknownHook at h
  dsimp only at h
  split at h
  · have hcause := congrArg Fault.cause (Failure.fault.inj h)
    simp at hcause
  · cases h

/-- No look-up fails with duplicate rules. -/
theorem Caller.not_tells_of_failure?
    {module : Value}
    {rule policy : String}
    {ref : Caller}
    {e : Failure}
    (h : ref.failure? env module rule policy = some e) :
    ¬ e.TellsDuplicateRules := by
  have hresolve :
      ∀ module name, env.resolve module name = .error e → ¬ e.TellsDuplicateRules := by
    rintro module name he ⟨p, v, rfl⟩
    exact env.resolve_ne_fault module name _ he
  cases ref with
  | check c =>
      have hbind := errorOf?_eq_some_iff.mp h
      rw [Condition.bindCheck] at hbind
      cases hname : c.name? with
      | none =>
          rw [hname] at hbind
          cases hbind
      | some n =>
          rw [hname] at hbind
          cases hfound : env.resolve module n with
          | error e' =>
              simp only [hfound, bind, Except.bind, Except.error.injEq] at hbind
              exact hresolve module n (hbind ▸ hfound)
          | ok found =>
              simp only [hfound, bind, Except.bind] at hbind
              cases found with
              | some f =>
                  cases hbind
              | none =>
                  rw [← Except.error.inj hbind]
                  exact Condition.not_tells_unknownCheck module rule policy n
  | hook k =>
      have hbind := errorOf?_eq_some_iff.mp h
      rw [Hydration.bindHook] at hbind
      cases hfound : env.resolve (k.moduleIn module) k.name with
      | error e' =>
          simp only [hfound, bind, Except.bind, Except.error.injEq] at hbind
          exact hresolve _ _ (hbind ▸ hfound)
      | ok found =>
          simp only [hfound, bind, Except.bind] at hbind
          cases found with
          | some f =>
              cases hbind
          | none =>
              rw [← Except.error.inj hbind]
              exact Hydration.not_tells_unknownHook module rule policy k

/-- Building a table fails with duplicate rules iff some pairs are at fault, and tells them. -/
theorem RuleTable.ofRules_tells_iff
    {rules : List Rule}
    {module : Value}
    {policy : String}
    {e : Failure} :
    RuleTable.ofRules env rules module policy = .error e ∧ e.TellsDuplicateRules
      ↔
    Duplicates.pairs rules ≠ [] ∧
      e = .ofCause (.duplicateRule (.text policy)
        (.list ((Duplicates.pairs rules).map fun p => .tuple [.text p.1, .text p.2]))) := by
  rw [← errorOf?_eq_some_iff, errorOf?_ofRules, Duplicates.errorOf?_inRules]
  by_cases hpairs : Duplicates.pairs rules = []
  · rw [if_pos hpairs, Option.none_or]
    refine ⟨fun h => ?_, fun h => absurd hpairs h.1⟩
    obtain ⟨hfirst, htells⟩ := h
    rcases Option.or_eq_some_iff.mp hfirst with hcheck | ⟨_, hfound⟩
    · obtain ⟨r, _, hr⟩ := List.exists_of_findSome?_eq_some hcheck
      rw [Duplicates.errorOf?_inRule] at hr
      obtain ⟨o, _, rfl⟩ := Option.map_eq_some_iff.mp hr
      exact absurd htells (Duplicates.not_tells_checkFailure policy r o.1 o.2)
    · obtain ⟨r, _, hr⟩ := List.exists_of_findSome?_eq_some hfound
      obtain ⟨ref, _, href⟩ := List.exists_of_findSome?_eq_some hr
      exact absurd htells (Caller.not_tells_of_failure? href)
  · rw [if_neg hpairs, Option.some_or]
    constructor
    · rintro ⟨h, _⟩
      exact ⟨hpairs, (Option.some.inj h).symm⟩
    · rintro ⟨_, rfl⟩
      exact ⟨rfl, _, _, rfl⟩

end Failures

namespace PolicyDocument

section Clashing

variable {d : PolicyDocument}

theorem clashing_ne_nil_iff :
    d.clashing ≠ []
      ↔
    ∃ x ∈ d.entries, ∃ y ∈ d.entries, x.pair ≠ y.pair ∧ x.joinedName = y.joinedName := by
  rw [clashing, ne_eq, List.filter_eq_nil_iff]
  simp only [decide_eq_true_eq, not_forall, not_not, exists_prop]
  constructor
  · rintro ⟨x, hx, y, hy, hpair, hname⟩
    exact ⟨x, hx, y, hy, hpair.symm, hname.symm⟩
  · rintro ⟨x, hx, y, hy, hpair, hname⟩
    exact ⟨x, hx, y, hy, hpair.symm, hname.symm⟩

/-- If every action has a rule, the rules of a document are those that its actions declare. -/
theorem exists_toRules
    (hnames : ∀ x ∈ d.entries, x.object ≠ "" ∧ x.action ≠ "")
    (hconverts : ∀ x ∈ d.entries, x.definition.Converts)
    (hkeys : ∀ x ∈ d.entries, x.definition.HasTextKeys) :
    ∃ rules, d.toRules = .ok rules ∧ List.Forall₂ ActionEntry.Declares d.entries rules := by
  rw [toRules_eq_mapM]
  simp only [mapM_eq_ok_iff_forall₂]
  generalize d.entries = entries at hnames hconverts hkeys
  induction entries with
  | nil =>
      exact ⟨[], .nil, .nil⟩
  | cons x rest ih =>
      rw [List.forall_mem_cons] at hnames hconverts hkeys
      obtain ⟨r, hr, hdeclares⟩ :=
        ActionEntry.exists_rule hnames.1.1 hnames.1.2 hconverts.1 hkeys.1
      obtain ⟨more, hmore, hall⟩ := ih hnames.2 hconverts.2 hkeys.2
      exact ⟨r :: more, .cons hr hmore, .cons hdeclares hall⟩

/-- Once its types are imported and its rules are made, building a document fails with duplicate
rules iff some actions clash, and tells them. -/
theorem ofDocument_tells_iff
    {env : Environment}
    {checkModule : Value}
    {rules : List Rule}
    (hvalid : d.IsValid)
    (himport : d.SchemasImport env)
    (hrules : d.toRules = .ok rules)
    (hall : List.Forall₂ ActionEntry.Declares d.entries rules)
    (e : Failure) :
    (Policy.ofDocument env d checkModule = .error e ∧ e.TellsDuplicateRules)
      ↔
    d.clashing ≠ [] ∧
      e = .ofCause (.duplicateRule (.text d.name)
        (.list (d.clashing.map fun x => .tuple [.text x.object, .text x.action]))) := by
  obtain ⟨schemas, hbuild⟩ :
      ∃ schemas, Policy.ofDocument env d checkModule =
        d.toRules >>= fun rules => Policy.ofRules env rules (d.config checkModule) schemas :=
    exists_policyOfDocument_eq hvalid.name_ne_empty himport
  have hofRules :
      errorOf? (Policy.ofDocument env d checkModule) =
        errorOf? (RuleTable.ofRules env rules (d.config checkModule).checkModule d.name) := by
    have hdone :
        ∀ t : RuleTable,
          errorOf? (pure ⟨t, d.config checkModule, schemas⟩ : Except Failure Policy) = none :=
      fun _ => rfl
    rw [hbuild, hrules]
    exact (errorOf?_bind hdone).trans Option.or_none
  rw [← errorOf?_eq_some_iff, hofRules, errorOf?_eq_some_iff, RuleTable.ofRules_tells_iff,
    pairs_of_declares hall hvalid, List.map_map]
  simp only [ne_eq, List.map_eq_nil_iff]
  rfl

/-- **No action is lost, and rules clash on joined names.**  If no object and no action has an
empty name, the shorthand converts, and the keys of metadata are texts, then a document has one
rule for each of its actions, in order: with the joined name and with what the action says.  If
its types can be imported, too, then building it fails with duplicate rules iff two actions have
one joined name, and tells each action whose joined name another one has, once and in order. -/
theorem toRules_complete
    (hvalid : d.IsValid)
    (hnames : ∀ x ∈ d.entries, x.object ≠ "" ∧ x.action ≠ "")
    (hconverts : ∀ x ∈ d.entries, x.definition.Converts)
    (hkeys : ∀ x ∈ d.entries, x.definition.HasTextKeys) :
    (∃ rules, d.toRules = .ok rules ∧ List.Forall₂ ActionEntry.Declares d.entries rules) ∧
    ∀ env checkModule, d.SchemasImport env →
      ((∃ e, Policy.ofDocument env d checkModule = .error e ∧ e.TellsDuplicateRules)
        ↔
      ∃ x ∈ d.entries, ∃ y ∈ d.entries, x.pair ≠ y.pair ∧ x.joinedName = y.joinedName) ∧
      (∀ e, Policy.ofDocument env d checkModule = .error e → e.TellsDuplicateRules →
        e = .ofCause (.duplicateRule (.text d.name)
          (.list (d.clashing.map fun x => .tuple [.text x.object, .text x.action])))) ∧
      (d.clashing.map ActionEntry.pair).Nodup := by
  obtain ⟨rules, hrules, hall⟩ := exists_toRules hnames hconverts hkeys
  refine ⟨⟨rules, hrules, hall⟩, fun env checkModule himport => ?_⟩
  have htells :=
    @ofDocument_tells_iff d env checkModule rules hvalid himport hrules hall
  refine ⟨?_, fun e he htell => ((htells e).mp ⟨he, htell⟩).2, ?_⟩
  · simp only [htells, exists_and_left, exists_eq, and_true]
    exact clashing_ne_nil_iff
  · exact (List.filter_sublist.map ActionEntry.pair).nodup hvalid.entries_nodup

end Clashing

/-- A document with one action of an object, which is allowed. -/
def ofAction (object : String) (metadata : Value) : PolicyDocument where
  name := "policy"
  checkModule := none
  errorReason := .text "unauthorized"
  errorMessage := "unauthorized"
  objects := [(object, ⟨none, [("v", ⟨none, .bool true, .list [], .list [], metadata⟩)]⟩)]

theorem isValid_ofAction
    (object : String)
    (metadata : Value) :
    (ofAction object metadata).IsValid where
  name_ne_empty := by
    simp [ofAction]
  objects_nodup := by
    simp [ofAction]
  actions_nodup := by
    simp [ofAction]

/-- Shorthand that converts is not enough: no rule is made for an object with an empty name, nor
from metadata with a key that is a number. -/
theorem no_rule_of_empty_name_or_numbered_key :
    (validate (ofAction "" (.list [])).data = .ok (ofAction "" (.list [])) ∧
      (∀ x ∈ (ofAction "" (.list [])).entries, x.definition.Converts) ∧
      ∃ e, (ofAction "" (.list [])).toRules = .error e) ∧
    validate (ofAction "a" (.list [.list [.int 1, .null]])).data =
        .ok (ofAction "a" (.list [.list [.int 1, .null]])) ∧
      (∀ x ∈ (ofAction "a" (.list [.list [.int 1, .null]])).entries, x.definition.Converts) ∧
      ∃ e, (ofAction "a" (.list [.list [.int 1, .null]])).toRules = .error e := by
  have hconverts :
      ∀ object metadata pairs, Shorthand.metadata metadata = .ok pairs →
        ∀ x ∈ (ofAction object metadata).entries, x.definition.Converts := by
    intro object metadata pairs hpairs x hx
    obtain rfl := List.mem_singleton.mp hx
    exact ⟨⟨_, rfl⟩, ⟨_, rfl⟩, ⟨_, rfl⟩, ⟨pairs, hpairs⟩⟩
  have herror :
      ∀ object metadata, (∀ r, ActionEntry.rule
          ⟨object, "v", ⟨none, .bool true, .list [], .list [], metadata⟩⟩ ≠ .ok r) →
        ∃ e, (ofAction object metadata).toRules = .error e := by
    intro object metadata hnone
    cases hrules : (ofAction object metadata).toRules with
    | error e =>
        exact ⟨e, rfl⟩
    | ok rules =>
        rw [toRules_eq_mapM] at hrules
        obtain ⟨r, _, hr⟩ := exists_of_mapM_eq_ok hrules List.mem_cons_self
        exact absurd hr (hnone r)
  refine ⟨⟨validate_data (isValid_ofAction _ _), hconverts _ _ _ rfl, herror _ _ ?_⟩,
    validate_data (isValid_ofAction _ _), hconverts _ _ _ rfl, herror _ _ ?_⟩
  · intro r hr
    exact (ActionEntry.rule_eq_ok_iff.mp hr).1 rfl
  · intro r hr
    obtain ⟨pairs, hpairs, hall⟩ := (ActionEntry.rule_eq_ok_iff.mp hr).2.2.metadata
    obtain rfl : [(.int 1, .null)] = pairs := Except.ok.inj hpairs
    obtain ⟨f, _, ⟨hkey, _⟩, _⟩ := List.forall₂_cons_left_iff.mp hall
    cases hkey

/-- A document in which an action of `a_b` and one of `a` have one joined name. -/
def editions : PolicyDocument where
  name := "press"
  checkModule := none
  errorReason := .null
  errorMessage := "unauthorized"
  objects :=
    [("a_b", ⟨none, [("c", ⟨none, .bool true, .list [], .null, .list []⟩)]⟩),
      ("a", ⟨some "newsroom.checks",
        [("x", ⟨some "x", .list [], .text "locked", .list [], .list []⟩),
          ("b_c", ⟨none, .list [], .bool true, .list [], .list [.list [.text "k", .null]]⟩)]⟩)]

/-- The editions have three rules, of which two clash. -/
theorem editions_clash :
    (∃ rules, editions.toRules = .ok rules ∧
      rules.map Rule.name = ["a_b_c", "a_x", "a_b_c"]) ∧
    Policy.ofDocument
        { Policy.newsroom with importable := [("newsroom.checks", Policy.newsroomChecks)] }
        editions .null =
      .error (.ofCause (.duplicateRule (.text "press")
        (.list [.tuple [.text "a_b", .text "c"], .tuple [.text "a", .text "b_c"]]))) := by
  have hvalid : editions.IsValid :=
    ⟨by simp [editions], by simp [editions], by simp [editions]⟩
  have hconverts : ∀ x ∈ editions.entries, x.definition.Converts ∧ x.definition.HasTextKeys := by
    rw [forall_mem_entries]
    simp only [editions, List.forall_mem_cons, List.not_mem_nil, false_implies,
      implies_true, and_true]
    refine ⟨⟨?_, ?_⟩, ⟨?_, ?_⟩, ⟨?_, ?_⟩⟩
    · exact ⟨⟨_, rfl⟩, ⟨_, rfl⟩, ⟨_, rfl⟩, ⟨_, rfl⟩⟩
    · exact ActionDefinition.hasTextKeys_of_metadata rfl (by simp)
    · exact ⟨⟨_, rfl⟩, ⟨_, Shorthand.conditions_text (by simp)⟩, ⟨_, rfl⟩, ⟨_, rfl⟩⟩
    · exact ActionDefinition.hasTextKeys_of_metadata rfl (by simp)
    · exact ⟨⟨_, rfl⟩, ⟨_, rfl⟩, ⟨_, rfl⟩, ⟨_, rfl⟩⟩
    · exact ActionDefinition.hasTextKeys_of_metadata rfl (by simp)
  have himport :
      editions.SchemasImport
        { Policy.newsroom with importable := [("newsroom.checks", Policy.newsroomChecks)] } := by
    intro o ho path hpath _
    rcases List.mem_cons.mp ho with rfl | ho
    · cases hpath
    · obtain rfl := List.mem_singleton.mp ho
      obtain rfl := Option.some.inj hpath
      exact ⟨Policy.newsroomChecks, rfl⟩
  obtain ⟨⟨rules, hrules, hall⟩, hclash⟩ :=
    toRules_complete hvalid (by simp [editions, entries, entriesOf])
      (fun x hx => (hconverts x hx).1) (fun x hx => (hconverts x hx).2)
  obtain ⟨hclashes, htold, _⟩ := hclash _ .null himport
  constructor
  · exact ⟨rules, hrules, map_name_of_declares hall⟩
  · obtain ⟨e, he, htells⟩ := hclashes.mpr
      ⟨⟨"a_b", "c", ⟨none, .bool true, .list [], .null, .list []⟩⟩, List.mem_cons_self,
        ⟨"a", "b_c", ⟨none, .list [], .bool true, .list [], .list [.list [.text "k", .null]]⟩⟩,
        List.mem_cons_of_mem _ (List.mem_cons_of_mem _ List.mem_cons_self),
        by simp [ActionEntry.pair], rfl⟩
    rw [he, htold e he htells]
    rfl

end PolicyDocument
end AccessPolicy
