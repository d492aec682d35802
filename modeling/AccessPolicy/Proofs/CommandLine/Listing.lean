import AccessPolicy.CommandLine.Report
import AccessPolicy.Proofs.PlainData

/-!
# Listings of rules in JSON

`rules` writes what the rules of a policy hold.  If this is plain data, then nothing can go wrong
but the length of an integer.

**Failures.**  The operations of this module fail in one way only, so that each of them is
described by a truth value that says whether it succeeds: what it fails with is
`Failure.unwritableUnless` this value, and sequences combine the values by `&&`.

**Listings.**  Plain data is written iff its integers can be (`Json.errorOf?_writeAt`), and a
listing iff this is so for what its rules hold and for their number (`Report.output_rules`).
-/

namespace AccessPolicy

/-- The failure of an operation that succeeds if something can be written. -/
def Failure.unwritableUnless (writable : Bool) : Option Failure :=
  if writable then none else some .unwritable

section Failures

open Failure

theorem unwritableUnless_or
    (a b : Bool) :
    (unwritableUnless a).or (unwritableUnless b) = unwritableUnless (a && b) := by
  cases a <;> rfl

theorem eq_true_of_unwritableUnless_eq_none
    {a : Bool}
    (h : unwritableUnless a = none) :
    a = true := by
  cases a
  · cases h
  · rfl

theorem of_unwritableUnless_eq_some
    {a : Bool}
    {f : Failure}
    (h : unwritableUnless a = some f) :
    a = false ∧ f = .unwritable := by
  cases a
  · exact ⟨rfl, (Option.some.inj h).symm⟩
  · cases h

theorem errorOf?_mapM_unwritable
    {α β : Type}
    {f : α → Except Failure β}
    {writable : α → Bool}
    {xs : List α}
    (hall : ∀ x ∈ xs, errorOf? (f x) = unwritableUnless (writable x)) :
    errorOf? (xs.mapM f) = unwritableUnless (xs.all writable) := by
  rw [errorOf?_mapM]
  induction xs with
  | nil =>
      rfl
  | cons x xs ih =>
      rw [List.forall_mem_cons] at hall
      rw [List.findSome?_cons, hall.1, ih hall.2, List.all_cons, ← unwritableUnless_or]
      cases unwritableUnless (writable x) <;> rfl

end Failures

namespace Json

open Failure

theorem writeItems_eq_mapM
    (level : Nat)
    (xs : List Value) :
    writeItems level xs = xs.mapM (writeAt level) := by
  induction xs with
  | nil =>
      rw [writeItems]
      rfl
  | cons x xs ih =>
      rw [writeItems, List.mapM_cons, ih]

/-- A member of a map as it is written. -/
def writeMember (level : Nat) (e : Value × Value) : Except Failure String := do
  let name ← name e.1
  let s ← writeAt level e.2
  return quoted name ++ ": " ++ s

theorem writeMembers_eq_mapM
    (level : Nat)
    (entries : Entries) :
    writeMembers level entries = entries.mapM (writeMember level) := by
  induction entries with
  | nil =>
      rw [writeMembers]
      rfl
  | cons e rest ih =>
      rw [writeMembers, List.mapM_cons, ih]
      simp only [writeMember, bind_assoc, pure_bind]

theorem errorOf?_intText
    (i : Int) :
    errorOf? (intText i) = unwritableUnless (Literal.isWritable i) := by
  unfold intText
  cases Literal.isWritable i <;> rfl

theorem errorOf?_name
    {k : Value}
    (hk : k.isPlainScalar = true) :
    errorOf? (name k) = unwritableUnless k.isWritable := by
  cases k with
  | int i =>
      exact errorOf?_intText i
  | _ =>
      first
        | rfl
        | cases hk

/-- Plain data is written iff its integers can be. -/
theorem errorOf?_writeAt
    {v : Value}
    (hv : v.isPlain = true)
    (level : Nat) :
    errorOf? (writeAt level v) = unwritableUnless v.isWritable := by
  induction v, hv using Value.isPlain_induct generalizing level with
  | scalar v _ hv =>
      cases v with
      | int i =>
          rw [writeAt]
          exact errorOf?_intText i
      | _ =>
          first
            | rfl
            | cases hv
  | list xs _ ih =>
      rw [writeAt, errorOf?_map, writeItems_eq_mapM, Value.isWritable_list]
      exact errorOf?_mapM_unwritable fun x hx => (ih x hx).2 (level + 1)
  | record entries _ ih =>
      have hmap : (TypeRef.builtin .map).isSubtypeOf (.builtin .map) = true := by
        decide +kernel
      rw [Value.isWritable_record, Value.record, writeAt, if_pos hmap, errorOf?_map,
        writeMembers_eq_mapM]
      refine errorOf?_mapM_unwritable fun e he => ?_
      obtain ⟨hkey, _, hvalue⟩ := ih e he
      have hmember :
          ∀ n, errorOf? (writeAt (level + 1) e.2 >>= fun s => pure (quoted n ++ ": " ++ s)) =
            unwritableUnless e.2.isWritable := by
        intro n
        rw [errorOf?_bind_pure, hvalue]
      rw [writeMember, errorOf?_bind hmember, errorOf?_name hkey, unwritableUnless_or]

end Json

section Values

theorem Value.isDisplayable_of_isPlain
    {v : Value}
    (hv : v.isPlain = true) :
    v.isDisplayable = v.isWritable := by
  obtain hscalar | ⟨xs, rfl⟩ | ⟨entries, rfl⟩ := isPlain_cases hv
  · cases v <;> first | rfl | cases hscalar
  · rfl
  · rfl

/-- The label of plain data is a text. -/
theorem Value.isWritable_moduleLabel_of_isPlain
    {v : Value}
    (hv : v.isPlain = true) :
    v.moduleLabel.isWritable = true := by
  obtain hscalar | ⟨xs, rfl⟩ | ⟨entries, rfl⟩ := isPlain_cases hv
  · cases v <;> first | rfl | cases hscalar
  · rfl
  · rfl

theorem Value.isWritable_ofFields
    (fields : Fields) :
    (ofFields fields).isWritable = (fields.map Prod.snd).all isWritable := by
  rw [ofFields, isWritable_record, textEntries, List.all_map, List.all_map]
  rfl

theorem Value.isPlain_ofFields
    {fields : Fields}
    (hfields : ∀ f ∈ fields, f.2.isPlain = true) :
    (ofFields fields).isPlain = true := by
  rw [ofFields, isPlain_record_iff, textEntries, List.forall_mem_map]
  exact fun f hf => ⟨rfl, hfields f hf⟩

/-- A check is shown iff what it holds can be written. -/
theorem Check.isDisplayable_toValue
    {c : Check}
    (hc : ∀ v ∈ c.values, v.isPlain = true) :
    c.toValue.isDisplayable = c.values.all Value.isWritable := by
  cases c with
  | withArg name arg =>
      have harg := hc arg List.mem_cons_self
      have hshown : (Check.withArg name arg).toValue.isDisplayable = arg.isDisplayable := rfl
      rw [hshown, Value.isDisplayable_of_isPlain harg]
      exact (Bool.and_true _).symm
  | _ =>
      rfl

/-- A hook is shown iff its arguments can be written. -/
theorem Hook.isDisplayable_toValue
    {h : Hook}
    (hmodule : h.module.isPlain = true) :
    h.toValue.isDisplayable = h.values.all Value.isWritable := by
  cases h with
  | named name =>
      rfl
  | inModule module name =>
      have hplain : module.isPlain = true := by
        cases module <;> exact hmodule
      exact Value.isWritable_moduleLabel_of_isPlain hplain
  | inModuleWith module name args =>
      have hplain : module.isPlain = true := by
        cases module <;> exact hmodule
      have hshown :
          (Hook.inModuleWith module name args).toValue.isDisplayable =
            (module.moduleLabel.isWritable && (Value.ofFields args).isWritable) := rfl
      rw [hshown, Value.isWritable_moduleLabel_of_isPlain hplain, Bool.true_and,
        Value.isWritable_ofFields]
      rfl

end Values

namespace CommandLine
namespace Report

open Failure

theorem errorOf?_textOf
    (v : Value) :
    errorOf? (textOf v) = unwritableUnless v.isDisplayable := by
  unfold textOf
  cases v.isDisplayable <;> rfl

theorem errorOf?_groupsData
    {groups : List Group}
    (hgroups : ∀ v ∈ groups.flatten.flatMap Check.values, v.isPlain = true) :
    errorOf? (groupsData groups) =
      unwritableUnless ((groups.flatten.flatMap Check.values).all Value.isWritable) := by
  have hcheck :
      ∀ g ∈ groups, ∀ c ∈ g,
        errorOf? (textOf c.toValue) = unwritableUnless (c.values.all Value.isWritable) := by
    intro g hg c hc
    have hplain : ∀ v ∈ c.values, v.isPlain = true := fun v hv =>
      hgroups v (List.mem_flatMap.mpr ⟨c, List.mem_flatten.mpr ⟨g, hg, hc⟩, hv⟩)
    rw [errorOf?_textOf, Check.isDisplayable_toValue hplain]
  have hall :
      (groups.flatten.flatMap Check.values).all Value.isWritable =
        groups.all fun g => g.all fun c => c.values.all Value.isWritable := by
    rw [List.all_flatMap, List.all_flatten]
  rw [groupsData, errorOf?_bind_pure, hall]
  exact errorOf?_mapM_unwritable fun g hg => errorOf?_mapM_unwritable (hcheck g hg)

/-- A rule is shown iff the arguments of its checks and hooks can be written. -/
theorem errorOf?_ruleData
    {r : Rule}
    (hr : r.Holds fun v => v.isPlain = true) :
    errorOf? (ruleData r) = unwritableUnless (r.arguments.all Value.isWritable) := by
  have hvalues := hr.values
  simp only [Rule.values, Rule.arguments, List.forall_mem_append] at hvalues
  obtain ⟨⟨⟨hallow, hdeny⟩, _⟩, _⟩ := hvalues
  have hhooks :
      errorOf? (r.preHooks.mapM fun h => textOf h.toValue) =
        unwritableUnless ((r.preHooks.flatMap Hook.values).all Value.isWritable) := by
    rw [List.all_flatMap]
    refine errorOf?_mapM_unwritable fun h hh => ?_
    rw [errorOf?_textOf, Hook.isDisplayable_toValue (hr.modules h hh)]
  rw [ruleData, Rule.arguments, List.all_append, List.all_append, Bool.and_assoc,
    ← unwritableUnless_or, ← unwritableUnless_or, ← errorOf?_groupsData hallow]
  refine errorOf?_bind fun allow => ?_
  rw [← errorOf?_groupsData hdeny]
  refine errorOf?_bind fun deny => ?_
  rw [errorOf?_bind_pure, hhooks]

/-- A row of a listing is about the rule of a name. -/
def IsRowOf (row : Value) (name : String) : Prop :=
  ∃ entries, row = .record entries ∧ Entries.getText? entries "name" = some (.text name)

theorem isPlain_texts
    (ss : List String) :
    (texts ss).isPlain = true ∧ (texts ss).isWritable = true := by
  rw [texts, Value.isPlain_list_iff, Value.isWritable_list, List.all_eq_true]
  simp only [List.forall_mem_map]
  exact ⟨fun _ _ => rfl, fun _ _ => rfl⟩

theorem isPlain_of_groupsData
    {groups : List Group}
    {data : Value}
    (h : groupsData groups = .ok data) :
    data.isPlain = true ∧ data.isWritable = true := by
  obtain ⟨lists, _, hdata⟩ := except_bind_eq_ok_iff.mp h
  obtain rfl := Except.ok.inj hdata
  rw [Value.isPlain_list_iff, Value.isWritable_list, List.all_eq_true]
  simp only [List.forall_mem_map]
  exact ⟨fun ss _ => (isPlain_texts ss).1, fun ss _ => (isPlain_texts ss).2⟩

/-- The row of a rule can be written iff its metadata can. -/
theorem of_ruleData
    {r : Rule}
    {row : Value}
    (hr : r.Holds fun v => v.isPlain = true)
    (h : ruleData r = .ok row) :
    row.isPlain = true ∧ row.isWritable = (r.metadata.map Prod.snd).all Value.isWritable ∧
      IsRowOf row r.name := by
  have hvalues := hr.values
  simp only [Rule.values, List.forall_mem_append, List.forall_mem_map] at hvalues
  obtain ⟨_, hmetadata⟩ := hvalues
  obtain ⟨allow, hallow, h⟩ := except_bind_eq_ok_iff.mp h
  obtain ⟨deny, hdeny, h⟩ := except_bind_eq_ok_iff.mp h
  obtain ⟨hooks, _, h⟩ := except_bind_eq_ok_iff.mp h
  obtain rfl := Except.ok.inj h
  obtain ⟨hplainAllow, hwritableAllow⟩ := isPlain_of_groupsData hallow
  obtain ⟨hplainDeny, hwritableDeny⟩ := isPlain_of_groupsData hdeny
  obtain ⟨hplainHooks, hwritableHooks⟩ := isPlain_texts hooks
  have hdescription :
      (Value.ofOptionalText r.description).isPlain = true ∧
        (Value.ofOptionalText r.description).isWritable = true := by
    cases r.description with
    | none =>
        exact ⟨rfl, rfl⟩
    | some s =>
        exact ⟨rfl, rfl⟩
  have hplainPairs :
      (Value.list (r.metadata.map fun m => .list [.text m.1, m.2])).isPlain = true := by
    rw [Value.isPlain_list_iff, List.forall_mem_map]
    intro m hm
    rw [Value.isPlain_list_iff, List.forall_mem_cons, List.forall_mem_singleton]
    exact ⟨rfl, hmetadata m hm⟩
  have hwritablePairs :
      (Value.list (r.metadata.map fun m => .list [.text m.1, m.2])).isWritable =
        (r.metadata.map Prod.snd).all Value.isWritable := by
    rw [Value.isWritable_list, List.all_map, List.all_map]
    refine congrArg r.metadata.all (funext fun m => ?_)
    rw [Function.comp_apply, Value.isWritable_list]
    exact Bool.and_true _
  refine ⟨Value.isPlain_ofFields ?_, ?_, _, rfl, getText?_textEntries _ _⟩
  · simp only [List.forall_mem_cons]
    exact ⟨rfl, rfl, rfl, hdescription.1, hplainAllow, hplainDeny, hplainHooks, hplainPairs,
      by simp⟩
  · have htext : ∀ s, (Value.text s).isWritable = true := fun _ => rfl
    rw [record, Value.isWritable_ofFields]
    simp only [List.map_cons, List.map_nil, List.all_cons, List.all_nil, htext, hdescription.2,
      hwritableAllow, hwritableDeny, hwritableHooks, hwritablePairs, Bool.true_and, Bool.and_true]

theorem of_mapM_ruleData
    {rules : List Rule}
    {rows : List Value}
    (hrules : ∀ r ∈ rules, r.Holds fun v => v.isPlain = true)
    (h : rules.mapM ruleData = .ok rows) :
    (Value.list rows).isPlain = true ∧
      (Value.list rows).isWritable =
        rules.all (fun r => (r.metadata.map Prod.snd).all Value.isWritable) ∧
      List.Forall₂ IsRowOf rows (rules.map Rule.name) := by
  rw [mapM_eq_ok_iff_forall₂] at h
  rw [Value.isPlain_list_iff, Value.isWritable_list]
  induction h with
  | nil =>
      exact ⟨by simp, rfl, .nil⟩
  | @cons r row rules rows hrow _ ih =>
      rw [List.forall_mem_cons] at hrules
      obtain ⟨hplain, hwritable, hname⟩ := of_ruleData hrules.1 hrow
      obtain ⟨hplains, hwritables, hnames⟩ := ih hrules.2
      exact ⟨List.forall_mem_cons.mpr ⟨hplain, hplains⟩,
        by rw [List.all_cons, List.all_cons, hwritable, hwritables], .cons hname hnames⟩

/-- Whether all integers of a listing can be written: the number of its rules and those in what
the rules hold. -/
def isListable (listed : List Rule) : Bool :=
  Literal.isWritable listed.length && listed.all fun r => r.values.all Value.isWritable

/-- A listing of some rows. -/
def listing (policy : String) (rows : List Value) (count : Nat) : Value :=
  record [("policy", .text policy), ("rules", .list rows), ("count", .int count)]

/-- A text lists rules of some names in order, with their number. -/
def IsListing (text policy : String) (names : List String) : Prop :=
  ∃ rows, List.Forall₂ IsRowOf rows names ∧
    Json.write (listing policy rows names.length) = .ok text

theorem errorOf?_write_listing
    (policy : String)
    {rows : List Value}
    (hrows : (Value.list rows).isPlain = true)
    (count : Nat) :
    errorOf? (Json.write (listing policy rows count)) =
      unwritableUnless ((Value.list rows).isWritable && Literal.isWritable count) := by
  have hplain : (listing policy rows count).isPlain = true := by
    refine Value.isPlain_ofFields ?_
    simp only [List.forall_mem_cons]
    exact ⟨rfl, hrows, rfl, by simp⟩
  have hwritable :
      (listing policy rows count).isWritable =
        ((Value.list rows).isWritable && Literal.isWritable count) := by
    rw [listing, record, Value.isWritable_ofFields]
    simp only [List.map_cons, List.map_nil, List.all_cons, List.all_nil, Bool.and_true]
    rfl
  rw [Json.write, Json.errorOf?_writeAt hplain, hwritable]

theorem isListable_eq
    (listed : List Rule) :
    isListable listed =
      (listed.all (fun r => r.arguments.all Value.isWritable) &&
        (listed.all (fun r => (r.metadata.map Prod.snd).all Value.isWritable) &&
          Literal.isWritable listed.length)) := by
  rw [isListable, Bool.eq_iff_iff]
  simp only [Rule.values, List.all_append, Bool.and_eq_true, List.all_eq_true]
  constructor
  · rintro ⟨hcount, hall⟩
    exact ⟨fun r hr => (hall r hr).1, fun r hr => (hall r hr).2, hcount⟩
  · rintro ⟨harguments, hmetadata, hcount⟩
    exact ⟨hcount, fun r hr => ⟨harguments r hr, hmetadata r hr⟩⟩

/-- A listing is written iff all its integers can be. -/
theorem output_rules
    (signs : Pictogram.Signs)
    (p : Policy)
    {listed : List Rule}
    (hlisted : ∀ r ∈ listed, r.Holds fun v => v.isPlain = true) :
    (isListable listed = true →
      ∃ text, IsListing text p.name (listed.map Rule.name) ∧
        (rules signs p listed).output true = .ok (text ++ "\n")) ∧
    (isListable listed = false → (rules signs p listed).output true = .error .unwritable) := by
  have harguments :
      errorOf? (listed.mapM ruleData) =
        unwritableUnless (listed.all fun r => r.arguments.all Value.isWritable) :=
    errorOf?_mapM_unwritable fun r hr => errorOf?_ruleData (hlisted r hr)
  have houtput :
      (rules signs p listed).output true =
        (listed.mapM ruleData >>= fun rows =>
          Json.write (listing p.name rows listed.length) >>= fun text => pure (text ++ "\n")) := by
    simp only [Answer.output, rules, listing, if_true, bind_assoc, pure_bind]
  rw [isListable_eq, houtput]
  cases hrows : listed.mapM ruleData with
  | error e =>
      rw [hrows] at harguments
      obtain ⟨hshort, rfl⟩ := of_unwritableUnless_eq_some harguments.symm
      rw [hshort, Bool.false_and]
      exact ⟨fun h => (by cases h), fun _ => rfl⟩
  | ok rows =>
      rw [hrows] at harguments
      obtain ⟨hplain, hwritable, hnames⟩ := of_mapM_ruleData hlisted hrows
      have hwrite := errorOf?_write_listing p.name hplain listed.length
      rw [eq_true_of_unwritableUnless_eq_none harguments.symm, Bool.true_and, ← hwritable]
      simp only [bind, Except.bind]
      cases htext : Json.write (listing p.name rows listed.length) with
      | error e =>
          rw [htext] at hwrite
          obtain ⟨hlong, rfl⟩ := of_unwritableUnless_eq_some hwrite.symm
          rw [hlong]
          exact ⟨fun h => (by cases h), fun _ => rfl⟩
      | ok text =>
          rw [htext] at hwrite
          rw [eq_true_of_unwritableUnless_eq_none hwrite.symm]
          refine ⟨fun _ => ⟨text, ⟨rows, hnames, ?_⟩, rfl⟩, fun h => (by cases h)⟩
          rw [List.length_map]
          exact htext

end Report
end CommandLine
end AccessPolicy
