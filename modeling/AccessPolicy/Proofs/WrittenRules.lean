import AccessPolicy.DocumentText
import AccessPolicy.Proofs.DocumentRules
import AccessPolicy.Proofs.Yaml.Mappings
import Mathlib.Data.List.Perm.Subperm

/-!
# The rules that a text writes

A policy text writes an action for each entry under the actions of an object.  This module
compares what is written with the rules of the policy that the text builds.

**Written actions.**  `Document.writtenActions` are the actions of a text in order, with the pair
of each and the node that says what it does.  An object or an action that is written twice is
there twice.

**Rules.**  Every rule of the policy is the one that a written action declares, and no action has
two rules.  If no key is written twice, there is one rule for each written action.  But of two
actions with one object and one name only one has a rule, and nothing tells that the other is
gone (`PolicyDocument.rules_ofText`): duplicates are looked for among the rules, and the data of
the text has the last value of each key only.
-/

namespace AccessPolicy

namespace Yaml
namespace Document

/-- The actions that are written under the objects of a text, each with its object, its name and
the node that defines it. -/
def writtenActions (y : Document) : List ((String × String) × Node) :=
  (y.namedUnder "objects" y.root).flatMap fun o =>
    (y.namedUnder "actions" o.2).map fun a => ((o.1, a.1), a.2)

/-- No object is written twice, and no action of an object. -/
structure WritesActionsOnce (y : Document) : Prop where
  objects_once : y.WritesOnce "objects" y.root
  actions_once : ∀ o ∈ y.namedUnder "objects" y.root, y.WritesOnce "actions" o.2

instance (y : Document) : Decidable y.WritesActionsOnce :=
  decidable_of_iff
    (y.WritesOnce "objects" y.root ∧
      ∀ o ∈ y.namedUnder "objects" y.root, y.WritesOnce "actions" o.2)
    ⟨fun h => ⟨h.1, h.2⟩, fun h => ⟨h.objects_once, h.actions_once⟩⟩

/-- A rule is the one that a written action declares. -/
def Writes
    (y : Document)
    (c : (String × String) × Node)
    (r : Rule) : Prop :=
  ∃ a, y.Reads ActionDefinition.read c.2 a ∧ (⟨c.1.1, c.1.2, a⟩ : ActionEntry).Declares r

end Document
end Yaml

open Yaml (Document)

variable {y : Document}

section Reading

open Verdict

theorem ObjectDefinition.ofValue?_eq_none
    {v : Value}
    (hv : v.IsNoMapping) :
    ofValue? v = none := by
  cases v with
  | object type fields =>
      exact absurd rfl (hv.ne_object type fields)
  | _ =>
      rfl

theorem PolicyDocument.ofValue?_eq_none
    {v : Value}
    (hv : v.IsNoMapping) :
    ofValue? v = none := by
  cases v with
  | object type fields =>
      exact absurd rfl (hv.ne_object type fields)
  | _ =>
      rfl

/-- What is read of an object definition are the actions that it writes. -/
theorem ObjectDefinition.readsUnder_actions
    {n : Yaml.Node}
    {o : ObjectDefinition}
    (h : y.Reads read n o) :
    y.ReadsUnder ActionDefinition.read "actions" n o.actions := by
  obtain ⟨v, hv, hread⟩ := h
  obtain ⟨entries, a, m, values, rfl, hvalues, rfl⟩ | hother := Document.datum?_cases hv
  · have hfields : readFields (Entries.ofList values) = .accepted o := hread
    obtain ⟨hmk, _⟩ := seqLeft_eq_accepted_iff.mp hfields
    obtain ⟨f, actions, hf, hactions, rfl⟩ := seq_eq_accepted_iff.mp hmk
    obtain ⟨path, _, rfl⟩ := map_eq_accepted_iff.mp hf
    exact Document.readsUnder_of_optional hv hactions
  · rw [read, ofValue?_eq_none hother, hother.entries?_eq_none] at hread
    cases hread

/-- A document that is read from fields has a name, and its objects are those under their field. -/
theorem PolicyDocument.objects_of_readFields
    {es : Entries}
    {d : PolicyDocument}
    (h : readFields es = .accepted d) :
    d.name ≠ "" ∧
    optional es "objects" [] (mapOf ObjectDefinition.read) = .accepted d.objects := by
  obtain ⟨hmk, _⟩ := seqLeft_eq_accepted_iff.mp h
  obtain ⟨_, objects, hmessages, hobjects, rfl⟩ := seq_eq_accepted_iff.mp hmk
  obtain ⟨_, message, hreasons, _, rfl⟩ := seq_eq_accepted_iff.mp hmessages
  obtain ⟨_, reason, hmodules, _, rfl⟩ := seq_eq_accepted_iff.mp hreasons
  obtain ⟨_, module, hnames, _, rfl⟩ := seq_eq_accepted_iff.mp hmodules
  obtain ⟨name, hname, rfl⟩ := map_eq_accepted_iff.mp hnames
  refine ⟨?_, hobjects⟩
  obtain ⟨v, _, hread⟩ | ⟨_, rfl⟩ := optional_eq_accepted_iff.mp hname
  · exact (name_eq_accepted_iff.mp hread).2
  · exact (by decide : "policy" ≠ "")

/-- An empty map is as good as no data at all. -/
theorem PolicyDocument.orEmpty_record
    (es : Entries) :
    orEmpty (.record es) = .record es := by
  cases es <;> rfl

/-- What is read of a text are the objects that it writes. -/
theorem PolicyDocument.readsUnder_objects
    {v : Value}
    {d : PolicyDocument}
    (hv : y.datum? y.root = some v)
    (hd : validate (orEmpty v) = .ok d) :
    d.name ≠ "" ∧ y.ReadsUnder ObjectDefinition.read "objects" y.root d.objects := by
  rw [validate, toExcept_eq_ok_iff] at hd
  obtain ⟨entries, a, m, values, _, _, rfl⟩ | hother := Document.datum?_cases hv
  · rw [orEmpty_record] at hd
    obtain ⟨hname, hobjects⟩ := objects_of_readFields hd
    exact ⟨hname, Document.readsUnder_of_optional hv hobjects⟩
  · cases htrue : v.isTrue with
    | false =>
        have hfields : readFields [] = .accepted d := by
          rw [orEmpty, htrue] at hd
          exact hd
        obtain ⟨hname, hobjects⟩ := objects_of_readFields hfields
        rw [← accepted.inj hobjects]
        exact ⟨hname, .nothing (Document.under_eq_nil hv hother "objects")⟩
    | true =>
        rw [orEmpty, htrue, if_pos rfl, read, ofValue?_eq_none hother,
          hother.entries?_eq_none] at hd
        cases hd

end Reading

namespace PolicyDocument

section Entries

variable {d : PolicyDocument}
variable (hobjects : y.ReadsUnder ObjectDefinition.read "objects" y.root d.objects)
include hobjects

theorem isValid_of_readsUnder
    (hname : d.name ≠ "") :
    d.IsValid where
  name_ne_empty := hname
  objects_nodup := hobjects.names_nodup
  actions_nodup := by
    intro o ho
    obtain ⟨c, _, _, hreads⟩ := hobjects.exists_of_mem ho
    exact (ObjectDefinition.readsUnder_actions hreads).names_nodup

/-- Every action of a document is written. -/
theorem exists_written_of_mem
    {x : ActionEntry}
    (hx : x ∈ d.entries) :
    ∃ c ∈ y.writtenActions, c.1 = x.pair ∧ y.Reads ActionDefinition.read c.2 x.definition := by
  obtain ⟨o, ho, hx⟩ := List.mem_flatMap.mp hx
  obtain ⟨a, ha, rfl⟩ := List.mem_map.mp hx
  obtain ⟨c, hc, hobject, hreads⟩ := hobjects.exists_of_mem ho
  obtain ⟨e, he, haction, hread⟩ :=
    (ObjectDefinition.readsUnder_actions hreads).exists_of_mem ha
  refine ⟨((c.1, e.1), e.2), ?_, Prod.ext hobject haction, hread⟩
  exact List.mem_flatMap.mpr ⟨c, hc, List.mem_map_of_mem he⟩

theorem subperm_written
    (hname : d.name ≠ "") :
    (d.entries.map ActionEntry.pair).Subperm (y.writtenActions.map Prod.fst) := by
  refine List.subperm_of_subset (isValid_of_readsUnder hobjects hname).entries_nodup ?_
  intro pair hpair
  obtain ⟨x, hx, rfl⟩ := List.mem_map.mp hpair
  obtain ⟨c, hc, heq, _⟩ := exists_written_of_mem hobjects hx
  exact heq ▸ List.mem_map_of_mem hc

/-- If nothing is written twice, what is written are the actions of the document. -/
theorem forall₂_entries
    (honce : y.WritesActionsOnce) :
    List.Forall₂ (fun c x => c.1 = x.pair ∧ y.Reads ActionDefinition.read c.2 x.definition)
      y.writtenActions d.entries := by
  have hall := (List.forall₂_and_left _ _).mpr
    ⟨honce.actions_once, hobjects.forall₂ honce.objects_once⟩
  refine List.rel_flatMap hall ?_
  rintro c o ⟨hactions, hobject, hreads⟩
  rw [List.forall₂_map_left_iff, List.forall₂_map_right_iff]
  refine ((ObjectDefinition.readsUnder_actions hreads).forall₂ hactions).imp ?_
  exact fun e a h => ⟨Prod.ext hobject h.1, h.2⟩

end Entries

section Rules

variable {env : Environment} {d : PolicyDocument} {checkModule : Value} {p : Policy}

theorem schemasImport_of_addSchemaPaths
    {objects : List (String × ObjectDefinition)}
    {b b' : PolicyBuilder}
    (h : PolicyBuilder.addSchemaPaths env b objects = .ok b') :
    ∀ o ∈ objects, ∀ path, o.2.schemaPath = some path → path ≠ "" →
      ∃ v, env.importPath path = .ok v := by
  induction objects generalizing b with
  | nil =>
      simp
  | cons o rest ih =>
      obtain ⟨object, definition⟩ := o
      rw [PolicyBuilder.addSchemaPaths] at h
      rw [List.forall_mem_cons]
      cases hpath : definition.schemaPath with
      | none =>
          simp only [hpath] at h
          exact ⟨by simp, ih h⟩
      | some path =>
          simp only [hpath] at h
          split at h
          · rename_i hempty
            refine ⟨?_, ih h⟩
            rintro _ ⟨rfl⟩ hne
            exact absurd (String.isEmpty_iff.mp hempty) hne
          · obtain ⟨v, hv, hrest⟩ := except_bind_eq_ok_iff.mp h
            obtain ⟨b₁, _, hrest⟩ := except_bind_eq_ok_iff.mp hrest
            refine ⟨?_, ih hrest⟩
            rintro _ ⟨rfl⟩ _
            exact ⟨v, hv⟩

/-- The rules of a policy that is built from a document are those of the document. -/
theorem toRules_of_ofDocument
    (hname : d.name ≠ "")
    (hp : Policy.ofDocument env d checkModule = .ok p) :
    d.toRules = .ok p.table.rules := by
  have himport : d.SchemasImport env := by
    obtain ⟨b, hb, _⟩ := except_bind_eq_ok_iff.mp hp
    obtain ⟨config, _, hb⟩ := except_bind_eq_ok_iff.mp hb
    obtain ⟨b', hb', _⟩ := except_bind_eq_ok_iff.mp hb
    exact schemasImport_of_addSchemaPaths hb'
  obtain ⟨schemas, hbuild⟩ :
      ∃ schemas, Policy.ofDocument env d checkModule =
        d.toRules >>= fun rules => Policy.ofRules env rules (d.config checkModule) schemas :=
    exists_policyOfDocument_eq hname himport
  rw [hbuild] at hp
  obtain ⟨rules, hrules, hbuilt⟩ := except_bind_eq_ok_iff.mp hp
  rw [hrules, Policy.rules_eq_of_ofRules hbuilt]

theorem forall₂_declares_of_toRules
    {rules : List Rule}
    (h : d.toRules = .ok rules) :
    List.Forall₂ ActionEntry.Declares d.entries rules := by
  rw [toRules_eq_mapM, mapM_eq_ok_iff_forall₂] at h
  exact h.imp fun _ _ hr => (ActionEntry.rule_eq_ok_iff.mp hr).2.2

/-- A written action writes the rule that is declared by what is read of it. -/
theorem writes_of_declares
    {c : (String × String) × Yaml.Node}
    {x : ActionEntry}
    {r : Rule}
    (hc : c.1 = x.pair ∧ y.Reads ActionDefinition.read c.2 x.definition)
    (hr : x.Declares r) :
    y.Writes c r := by
  obtain ⟨⟨object, action⟩, n⟩ := c
  obtain ⟨hpair, hreads⟩ := hc
  cases hpair
  exact ⟨x.definition, hreads, hr⟩

end Rules

section Texts

variable {env : Environment} {text : String} {d : PolicyDocument} {checkModule : Value}
  {p : Policy}

theorem exists_load_of_ofText
    (hd : ofText text = .ok d) :
    ∃ v, Yaml.load text = .ok v ∧ validate (orEmpty v) = .ok d := by
  rw [ofText] at hd
  cases hload : Yaml.load text with
  | error problem =>
      rw [hload] at hd
      cases hd
  | ok v =>
      rw [hload] at hd
      exact ⟨v, rfl, hd⟩

/-- No data declares no action. -/
theorem entries_of_null
    (hd : validate (orEmpty .null) = .ok d) :
    d.name ≠ "" ∧ d.entries = [] := by
  have hfields : readFields [] = .accepted d :=
    Verdict.toExcept_eq_ok_iff.mp hd
  obtain ⟨hname, hobjects⟩ := objects_of_readFields hfields
  rw [entries, ← Verdict.accepted.inj hobjects]
  exact ⟨hname, rfl⟩

/-- **Every rule is written, but not everything written is a rule.**  A policy that is built from
a text without aliases and merges has the rules of some of the written actions, and no two for
one pair.  It has all of them, in order, if nothing is written twice; and it has fewer rules than
are written if an action of an object is.  The names of objects and actions are read with their
escapes resolved; half of a pair is no character, and so no text with such an escape is meant
(`Text.ofCode`). -/
theorem rules_ofText
    (hd : ofText text = .ok d)
    (hp : Policy.ofDocument env d checkModule = .ok p) :
    (Document.ofText? text.toList = .ok none ∧ p.table.size = 0) ∨
    ∃ y, Document.ofText? text.toList = .ok (some y) ∧
      (y.root.aliases = [] → y.root.isMergeFree = true →
        (∀ r ∈ p.table.rules, ∃ c ∈ y.writtenActions, y.Writes c r) ∧
        (p.table.rules.map Duplicates.pair).Subperm (y.writtenActions.map Prod.fst) ∧
        (p.table.rules.map Duplicates.pair).Nodup ∧
        (y.WritesActionsOnce →
          List.Forall₂ y.Writes y.writtenActions p.table.rules ∧
          p.table.size = y.writtenActions.length) ∧
        (¬ (y.writtenActions.map Prod.fst).Nodup →
          p.table.size < y.writtenActions.length)) := by
  obtain ⟨v, hload, hvalid⟩ := exists_load_of_ofText hd
  have hsize : p.table.size = p.table.rules.length :=
    (List.length_map _).symm
  obtain ⟨hnone, rfl⟩ | ⟨y, _, hy, _, _⟩ := Yaml.load_eq_ok hload
  · left
    obtain ⟨hname, hentries⟩ := entries_of_null hvalid
    have hall := forall₂_declares_of_toRules (toRules_of_ofDocument hname hp)
    rw [hentries, List.forall₂_nil_left_iff] at hall
    exact ⟨hnone, hsize.trans (congrArg List.length hall)⟩
  · right
    refine ⟨y, hy, fun haliases hmerges => ?_⟩
    have hroot := Yaml.load_of_isTree hload hy haliases hmerges
    obtain ⟨hname, hobjects⟩ := readsUnder_objects hroot hvalid
    have hall := forall₂_declares_of_toRules (toRules_of_ofDocument hname hp)
    have hsub := subperm_written hobjects hname
    have hnodup := (isValid_of_readsUnder hobjects hname).entries_nodup
    rw [← map_pair_of_declares hall] at hsub hnodup
    refine ⟨fun r hr => ?_, hsub, hnodup, fun honce => ?_, fun htwice => ?_⟩
    · obtain ⟨x, hx, hdeclares⟩ := exists_of_mem_right hall hr
      obtain ⟨c, hc, hread⟩ := exists_written_of_mem hobjects hx
      exact ⟨c, hc, writes_of_declares hread hdeclares⟩
    · have hwrites : List.Forall₂ y.Writes y.writtenActions p.table.rules := by
        refine (forall₂_comp (forall₂_entries hobjects honce) hall).imp ?_
        rintro c r ⟨x, hread, hdeclares⟩
        exact writes_of_declares hread hdeclares
      exact ⟨hwrites, hsize.trans hwrites.length_eq.symm⟩
    · -- With as many rules as are written the pairs would be the same, and no rules share one.
      by_contra hle
      have hperm := List.Subperm.perm_of_length_le hsub (by
        rw [List.length_map, List.length_map, ← hsize]
        exact Nat.le_of_not_lt hle)
      exact htwice (hperm.nodup_iff.mp hnodup)

end Texts

section TwoActions

/-- A text with an action `v` that is denied, and an action that is allowed. -/
def twoActions (name : String) : String :=
  "objects: \x7ba: \x7bactions: \x7bv: \x7bdeny: true\x7d, " ++ name ++
    ": \x7ballow: true\x7d\x7d\x7d\x7d\n"

theorem exists_policy_of_any
    {env : Environment}
    {text : String}
    {P : Policy → Prop}
    [DecidablePred P]
    (h : (((ofText text).toOption.bind fun d =>
      (Policy.ofDocument env d .null).toOption).any fun p => decide (P p)) = true) :
    ∃ d p, ofText text = .ok d ∧ Policy.ofDocument env d .null = .ok p ∧ P p := by
  obtain ⟨p, hp, hdecide⟩ := (Option.any_eq_true _ _).mp h
  obtain ⟨d, hd, hp⟩ := Option.bind_eq_some_iff.mp hp
  exact ⟨d, p, toOption_eq_some_iff.mp hd, toOption_eq_some_iff.mp hp, of_decide_eq_true hdecide⟩

theorem exists_document_of_any
    {text : String}
    {P : Document → Prop}
    [DecidablePred P]
    (h : ((Document.ofText? text.toList).toOption.join.any fun y => decide (P y)) = true) :
    ∃ y, Document.ofText? text.toList = .ok (some y) ∧ P y := by
  obtain ⟨y, hy, hdecide⟩ := (Option.any_eq_true _ _).mp h
  exact ⟨y, toOption_eq_some_iff.mp (Option.join_eq_some_iff.mp hy), of_decide_eq_true hdecide⟩

/-- Actions `v` and `w` have a rule each.  Of two actions `v` one is lost, and with it what is
denied, though the policy is built. -/
theorem twoActions_rules :
    (∃ d p y, ofText (twoActions "w") = .ok d ∧
      Policy.ofDocument Policy.newsroom d .null = .ok p ∧
      Document.ofText? (twoActions "w").toList = .ok (some y) ∧
      List.Forall₂ y.Writes y.writtenActions p.table.rules ∧
      p.table.size = 2) ∧
    ∃ d p y, ofText (twoActions "v") = .ok d ∧
      Policy.ofDocument Policy.newsroom d .null = .ok p ∧
      Document.ofText? (twoActions "v").toList = .ok (some y) ∧
      y.writtenActions.map Prod.fst = [("a", "v"), ("a", "v")] ∧
      p.table.size < y.writtenActions.length ∧
      ∀ r ∈ p.table.rules, r.deny = [] := by
  constructor
  · obtain ⟨d, p, hd, hp, -⟩ :
        ∃ d p, ofText (twoActions "w") = .ok d ∧
          Policy.ofDocument Policy.newsroom d .null = .ok p ∧ True :=
      exists_policy_of_any (by decide +kernel)
    obtain ⟨y, hy, haliases, hmerges, honce, hlength⟩ :
        ∃ y, Document.ofText? (twoActions "w").toList = .ok (some y) ∧
          y.root.aliases = [] ∧ y.root.isMergeFree = true ∧ y.WritesActionsOnce ∧
          y.writtenActions.length = 2 :=
      exists_document_of_any (by decide +kernel)
    obtain ⟨hnone, _⟩ | ⟨y', hy', hrules⟩ := rules_ofText hd hp
    · cases hy.symm.trans hnone
    · cases hy.symm.trans hy'
      obtain ⟨hwrites, hsize⟩ := (hrules haliases hmerges).2.2.2.1 honce
      exact ⟨d, p, y, hd, hp, hy, hwrites, hsize.trans hlength⟩
  · obtain ⟨d, p, hd, hp, hdeny⟩ :
        ∃ d p, ofText (twoActions "v") = .ok d ∧
          Policy.ofDocument Policy.newsroom d .null = .ok p ∧
          ∀ r ∈ p.table.rules, r.deny.length = 0 :=
      exists_policy_of_any (by decide +kernel)
    obtain ⟨y, hy, haliases, hmerges, hwritten⟩ :
        ∃ y, Document.ofText? (twoActions "v").toList = .ok (some y) ∧
          y.root.aliases = [] ∧ y.root.isMergeFree = true ∧
          y.writtenActions.map Prod.fst = [("a", "v"), ("a", "v")] :=
      exists_document_of_any (by decide +kernel)
    obtain ⟨hnone, _⟩ | ⟨y', hy', hrules⟩ := rules_ofText hd hp
    · cases hy.symm.trans hnone
    · cases hy.symm.trans hy'
      have hsize := (hrules haliases hmerges).2.2.2.2 (by simp [hwritten])
      exact ⟨d, p, y, hd, hp, hy, hwritten, hsize,
        fun r hr => List.length_eq_zero_iff.mp (hdeny r hr)⟩

end TwoActions

end PolicyDocument
end AccessPolicy
