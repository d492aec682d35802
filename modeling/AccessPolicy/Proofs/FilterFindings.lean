import AccessPolicy.Proofs.DuplicateChecks
import AccessPolicy.Proofs.PlainData
import AccessPolicy.Proofs.RepeatedKeys
import AccessPolicy.Proofs.RuleFilter
import AccessPolicy.Proofs.Shorthand.Spellings
import AccessPolicy.Proofs.ValueEquality

/-!
# What filters find

A policy lists the rules that hold what a filter looks for: a check in allow or deny, or an entry
of metadata (`Policy.Finds`).

**Wanted.**  A filter for checks stands for a check as conditions do (`Shorthand.SpellsCheck`).  A
check without argument is met by all checks of its name, any other one by equal checks alone
(`Check.Meets`).  A filter for metadata is no shorthand: a tuple is met by an equal pair alone, and
anything else by each entry of that key (`RuleFilter.EntryMeets`).

**Findings.**  Rules are found by what they hold and by nothing else (`finds_check_iff`,
`finds_entry_iff`).  What the laws of `listRules_finds` add is that a rule is found by its own
checks and entries, for which what it holds must agree with itself, and that a bare name or key
finds what all pairs with it find.
-/

namespace AccessPolicy

/-- The fields of a rule that hold checks. -/
inductive CheckField where
  | allow
  | deny

namespace CheckField

/-- The option of filters that looks in a field. -/
def option : CheckField → String
  | .allow => "allow"
  | .deny => "deny"

/-- The checks of a rule in a field. -/
def checks : CheckField → Rule → List Check
  | .allow, r => r.allow.flatten
  | .deny, r => r.deny.flatten

end CheckField

/-- No argument of a check in allow or deny, and no value of metadata, holds what is not a
number. -/
structure Rule.LacksNaN (r : Rule) : Prop where
  arguments : ∀ (field : CheckField), ∀ c ∈ field.checks r, ∀ v ∈ c.values, v.lacksNaN = true
  metadata : ∀ m ∈ r.metadata, m.2.lacksNaN = true

/-- A check is what is looked for: one of the wanted name, or else the wanted check itself. -/
def Check.Meets (c wanted : Check) : Prop :=
  match wanted with
  | .named n => c.name? = some n
  | _ => c.Equals wanted

/-- An entry of metadata is what is looked for: the wanted pair, or one of the wanted key. -/
def RuleFilter.EntryMeets (m : String × Value) (wanted : Value) : Prop :=
  match wanted with
  | .tuple items => ∃ k v, items = [k, v] ∧ k.text? = some m.1 ∧ m.2.agrees v = true
  | key => key.text? = some m.1

/-- A policy lists a rule if its rules are filtered by a value. -/
def Policy.Finds (p : Policy) (option : String) (value : Value) (r : Rule) : Prop :=
  ∃ kept, p.listRules [(option, value)] = .ok kept ∧ r ∈ kept

section Meeting

open RuleFilter

variable {c : Check}

theorem Check.avoidsNaN_of_values
    (hc : ∀ v ∈ c.values, v.lacksNaN = true) :
    c.AvoidsNaN := by
  unfold AvoidsNaN
  split
  · cases hc _ (List.mem_singleton_self _)
  · trivial

theorem Check.meets_self
    (hc : ∀ v ∈ c.values, v.lacksNaN = true) :
    c.Meets c := by
  cases c with
  | literal b =>
      exact rfl
  | named n =>
      exact rfl
  | withArg n v =>
      exact ⟨rfl, v.agrees_self (hc v (List.mem_singleton_self v))⟩

theorem checkMatches_iff
    (hc : ∀ v ∈ c.values, v.lacksNaN = true)
    (wanted : Check) :
    checkMatches wanted c = true ↔ c.Meets wanted := by
  cases wanted with
  | named n =>
      exact beq_iff_eq
  | _ =>
      exact Check.agrees_iff_equals (Check.avoidsNaN_of_values hc) _

/-- A pair of a text and a value is the same as pairs alone. -/
theorem Value.agrees_pair_iff
    {n : String}
    {v : Value}
    (hv : v.lacksNaN = true)
    (items : List Value) :
    (Value.tuple [.text n, v]).agrees (.tuple items) = true
      ↔
    ∃ k w, items = [k, w] ∧ k.text? = some n ∧ v.agrees w = true := by
  have hpair : ∀ x y xs, agreesAll (x :: xs) y = true ↔
      ∃ z zs, y = z :: zs ∧ x.isSame z = true ∧ agreesAll xs zs = true := by
    intro x y xs
    cases y with
    | nil =>
        simp [agreesAll]
    | cons z zs =>
        simp [agreesAll, isSame]
  have hnil : ∀ y, agreesAll [] y = true ↔ y = [] := by
    intro y
    cases y <;> simp [agreesAll]
  have hname : ∀ k : Value, (text n).isSame k = (k.text? == some n) :=
    fun _ => isSame_eq_of_text? rfl
  rw [agrees, hpair]
  simp only [hpair, hnil, hname, isSame_eq_agrees hv]
  constructor
  · rintro ⟨k, _, rfl, hk, w, _, rfl, hw, rfl⟩
    exact ⟨k, w, rfl, beq_iff_eq.mp hk, hw⟩
  · rintro ⟨k, w, rfl, hk, hw⟩
    exact ⟨k, [w], rfl, beq_iff_eq.mpr hk, w, [], rfl, hw, rfl⟩

theorem matchesMetadata_iff
    {pairs : Fields}
    (hpairs : ∀ m ∈ pairs, m.2.lacksNaN = true)
    (wanted : Value) :
    matchesMetadata (Value.textEntries pairs) wanted = true
      ↔
    ∃ m ∈ pairs, EntryMeets m wanted := by
  unfold matchesMetadata
  split
  · rename_i items
    simp only [Value.textEntries, List.any_map, List.any_eq_true, Function.comp_apply]
    exact exists_congr fun m => and_congr_right fun hm => Value.agrees_pair_iff (hpairs m hm) items
  · rename_i hkey
    simp only [Value.textEntries, List.any_map, List.any_eq_true, Function.comp_apply]
    refine exists_congr fun m => and_congr_right fun hm => ?_
    unfold EntryMeets
    split
    · exact absurd rfl (hkey _)
    · rw [Value.agrees, beq_iff_eq]

end Meeting

namespace Policy

open RuleFilter Shorthand

variable {p : Policy} {r : Rule}

section Listing

variable {option : String} {v : Value} {matching : Rule → Bool}

/-- A filter that is set to something and does not fail lists the rules that match it. -/
theorem listRules_one
    (hknown : option ∈ options)
    (hset : v ≠ .null)
    (h : ∀ r, matchesOne r option v = .ok (matching r)) :
    p.listRules [(option, v)] = .ok (p.table.rules.filter matching) :=
  filterRules_one hknown hset h p.table.rules

theorem finds_iff_of_listRules
    (h : p.listRules [(option, v)] = .ok (p.table.rules.filter matching)) :
    p.Finds option v r ↔ r ∈ p.table.rules ∧ matching r = true := by
  unfold Finds
  simp only [h, Except.ok.injEq, exists_eq_left', List.mem_filter]

end Listing

theorem ne_null_of_spellsCheck
    {v : Value}
    {c : Check}
    (h : SpellsCheck v c) :
    v ≠ .null := by
  rintro rfl
  cases h with
  | model is =>
      cases is
  | name text nonempty =>
      cases text

/-- A filter for checks that stands for one lists the rules with a check that matches it. -/
theorem listRules_check
    (field : CheckField)
    {v : Value}
    {c : Check}
    (h : SpellsCheck v c) :
    p.listRules [(field.option, v)] =
      .ok (p.table.rules.filter fun r => (field.checks r).any (checkMatches c)) := by
  have hcheck : check v = .ok c := (realizes_check.eq_ok_iff v c).mpr h
  have hmatches : ∀ groups : List Group,
      matchesCheck groups v = .ok (groups.flatten.any (checkMatches c)) := by
    intro groups
    rw [matchesCheck, hcheck, List.any_flatten]
    rfl
  cases field with
  | allow =>
      exact listRules_one (by decide) (ne_null_of_spellsCheck h) fun r => hmatches r.allow
  | deny =>
      exact listRules_one (by decide) (ne_null_of_spellsCheck h) fun r => hmatches r.deny

/-- A filter for metadata lists the rules whose metadata matches it. -/
theorem listRules_metadata
    {v : Value}
    (hset : v ≠ .null) :
    p.listRules [("metadata", v)] =
      .ok (p.table.rules.filter fun r => matchesMetadata (Value.textEntries r.metadata) v) :=
  listRules_one (by decide) hset fun _ => rfl

section Findings

variable (hnan : ∀ r ∈ p.table.rules, r.LacksNaN)
include hnan

/-- Rules are found by a check if one of their checks is what is looked for. -/
theorem finds_check_iff
    (field : CheckField)
    {v : Value}
    {c : Check}
    (h : SpellsCheck v c) :
    p.Finds field.option v r ↔ r ∈ p.table.rules ∧ ∃ d ∈ field.checks r, d.Meets c := by
  rw [finds_iff_of_listRules (listRules_check field h)]
  refine and_congr_right fun hr => ?_
  rw [List.any_eq_true]
  exact exists_congr fun d => and_congr_right fun hd =>
    checkMatches_iff ((hnan r hr).arguments field d hd) c

/-- Rules are found by metadata if one of their entries is what is looked for. -/
theorem finds_entry_iff
    {v : Value}
    (hset : v ≠ .null) :
    p.Finds "metadata" v r ↔ r ∈ p.table.rules ∧ ∃ m ∈ r.metadata, EntryMeets m v := by
  rw [finds_iff_of_listRules (listRules_metadata hset)]
  exact and_congr_right fun hr => matchesMetadata_iff (hnan r hr).metadata v

/-- A bare name finds the checks of that name: those without argument, and those that the name
finds together with some argument. -/
theorem finds_name_iff
    (field : CheckField)
    {name : Value}
    {n : String}
    (htext : name.text? = some n)
    (hn : n ≠ "") :
    p.Finds field.option name r
      ↔
    (r ∈ p.table.rules ∧ .named n ∈ field.checks r) ∨
      ∃ arg, p.Finds field.option (.tuple [name, arg]) r := by
  simp only [finds_check_iff hnan field (.name htext hn),
    finds_check_iff hnan field (.pair htext hn _)]
  constructor
  · rintro ⟨hr, c, hc, hname⟩
    cases c with
    | literal b =>
        cases hname
    | named m =>
        obtain rfl : m = n := Option.some.inj hname
        exact .inl ⟨hr, hc⟩
    | withArg m arg =>
        obtain rfl : m = n := Option.some.inj hname
        exact .inr ⟨arg, hr, _, hc, Check.meets_self ((hnan r hr).arguments field _ hc)⟩
  · rintro (⟨hr, hc⟩ | ⟨arg, hr, c, hc, hmeets⟩)
    · exact ⟨hr, _, hc, rfl⟩
    · cases c with
      | withArg m v =>
          exact ⟨hr, _, hc, congrArg some hmeets.1⟩
      | _ =>
          exact hmeets.elim

/-- A bare key finds what it finds together with some value. -/
theorem finds_key_iff
    {key : Value}
    (hset : key ≠ .null)
    (hbare : ∀ items, key ≠ .tuple items) :
    p.Finds "metadata" key r ↔ ∃ value, p.Finds "metadata" (.tuple [key, value]) r := by
  have hkey : ∀ m, EntryMeets m key ↔ key.text? = some m.1 := by
    intro m
    unfold EntryMeets
    split
    · exact absurd rfl (hbare _)
    · rfl
  have hpair : ∀ m value, EntryMeets m (.tuple [key, value]) ↔
      key.text? = some m.1 ∧ m.2.agrees value = true := by
    intro m value
    constructor
    · rintro ⟨k, v, hitems, htext, hv⟩
      cases hitems
      exact ⟨htext, hv⟩
    · rintro ⟨htext, hv⟩
      exact ⟨key, value, rfl, htext, hv⟩
  rw [finds_entry_iff hnan hset]
  simp only [finds_entry_iff hnan (v := .tuple _) (by simp), hkey, hpair]
  constructor
  · rintro ⟨hr, m, hm, htext⟩
    exact ⟨m.2, hr, m, hm, htext, m.2.agrees_self ((hnan r hr).metadata m hm)⟩
  · rintro ⟨value, hr, m, hm, htext, _⟩
    exact ⟨hr, m, hm, htext⟩

/-- **Filters find exactly what rules hold.**  Let nothing in the checks and metadata of a policy be
what is not a number.  Then a filter that stands for a check, and one for metadata, always lists
rules of the policy in order, and these are the rules that hold what it looks for.  So a rule is
found by each of its checks, however that is written, and by each of its pairs of metadata.  A bare
name finds the checks of that name without argument and what the name finds with any argument, and a
bare key what it finds with any value. -/
theorem listRules_finds :
    (∀ (field : CheckField) v c, SpellsCheck v c →
      (∃ kept, p.listRules [(field.option, v)] = .ok kept ∧ kept.Sublist p.table.rules) ∧
      ∀ r, p.Finds field.option v r ↔ r ∈ p.table.rules ∧ ∃ d ∈ field.checks r, d.Meets c) ∧
    (∀ v, v ≠ .null →
      (∃ kept, p.listRules [("metadata", v)] = .ok kept ∧ kept.Sublist p.table.rules) ∧
      ∀ r, p.Finds "metadata" v r ↔ r ∈ p.table.rules ∧ ∃ m ∈ r.metadata, EntryMeets m v) ∧
    (∀ r ∈ p.table.rules,
      (∀ (field : CheckField), ∀ c ∈ field.checks r, ∀ v, SpellsCheck v c →
        p.Finds field.option v r) ∧
      ∀ m ∈ r.metadata, p.Finds "metadata" (.tuple [.text m.1, m.2]) r) ∧
    (∀ (field : CheckField) name n, name.text? = some n → n ≠ "" → ∀ r,
      (p.Finds field.option name r
        ↔
      (r ∈ p.table.rules ∧ .named n ∈ field.checks r) ∨
        ∃ arg, p.Finds field.option (.tuple [name, arg]) r)) ∧
    ∀ key, key ≠ .null → (∀ items, key ≠ .tuple items) → ∀ r,
      (p.Finds "metadata" key r ↔ ∃ value, p.Finds "metadata" (.tuple [key, value]) r) := by
  refine ⟨?_, ?_, ?_, ?_, ?_⟩
  · intro field v c h
    exact ⟨⟨_, listRules_check field h, List.filter_sublist⟩,
      fun r => finds_check_iff hnan field h⟩
  · intro v hset
    exact ⟨⟨_, listRules_metadata hset, List.filter_sublist⟩,
      fun r => finds_entry_iff hnan hset⟩
  · intro r hr
    constructor
    · intro field c hc v h
      exact (finds_check_iff hnan field h).mpr
        ⟨hr, c, hc, Check.meets_self ((hnan r hr).arguments field c hc)⟩
    · intro m hm
      refine (finds_entry_iff hnan (by simp)).mpr ⟨hr, m, hm, _, _, rfl, rfl, ?_⟩
      exact m.2.agrees_self ((hnan r hr).metadata m hm)
  · intro field name n htext hn r
    exact finds_name_iff hnan field htext hn
  · intro key hset hbare r
    exact finds_key_iff hnan hset hbare

end Findings

section Newsroom

/-- Articles are reviewed by senior editors. -/
def reviewRule : Rule :=
  { updateRule with
    action := "review"
    name := "article_review"
    allow := [[.withArg "role" (.tuple [.text "editor", .int 1])]]
    metadata := [("level", .int 2)] }

/-- The rule for reviews is found with its argument, in which one is as good as true but a list is
no tuple, and by the name alone.  The level is found as a key, and the owner is not. -/
theorem review_found :
    ∃ p, Policy.ofRules newsroom [updateRule, reviewRule] { checkModule := newsroomChecks } [] =
        .ok p ∧
      (∀ r ∈ p.table.rules, r.LacksNaN) ∧
      p.Finds "allow" (.record [(.text "role", .tuple [.text "editor", .bool true])]) reviewRule ∧
      ¬ p.Finds "allow" (.tuple [.text "role", .list [.text "editor", .int 1]]) reviewRule ∧
      p.Finds "allow" (.text "role") reviewRule ∧
      p.Finds "metadata" (.text "level") reviewRule ∧
      ¬ p.Finds "metadata" (.tuple [.text "owner", .int 2]) reviewRule := by
  have hbuilt :
      ∃ p, Policy.ofRules newsroom [updateRule, reviewRule] { checkModule := newsroomChecks } [] =
        .ok p :=
    ⟨_, rfl⟩
  obtain ⟨p, hp⟩ := hbuilt
  have hrules : p.table.rules = [updateRule, reviewRule] := rules_eq_of_ofRules hp
  have hmem : reviewRule ∈ p.table.rules := by
    simp [hrules]
  have hnan : ∀ r ∈ p.table.rules, r.LacksNaN := by
    rw [hrules]
    intro r hr
    simp only [List.mem_cons, List.not_mem_nil, or_false] at hr
    rcases hr with rfl | rfl
    · refine ⟨fun field => ?_, by decide⟩
      cases field <;> decide
    · refine ⟨fun field => ?_, by decide⟩
      cases field <;> decide
  obtain ⟨hcheck, hmetadata, hown, hname, hkey⟩ := listRules_finds hnan
  have hlevel := (hown reviewRule hmem).2 ("level", .int 2) (by simp [reviewRule])
  refine ⟨p, hp, hnan, ?_, ?_, ?_, ?_, ?_⟩
  · refine ((hcheck .allow _ _ (.entry _ rfl (by decide) _)).2 reviewRule).mpr ⟨hmem, _,
      List.mem_singleton_self _, rfl, ?_⟩
    simp [Value.agrees, Value.agreesAll, Value.agreesWithInt, Value.text?, Value.intOfBool]
  · intro hfound
    have hspells :
        SpellsCheck (.tuple [.text "role", .list [.text "editor", .int 1]])
          (.withArg "role" (.list [.text "editor", .int 1])) :=
      .pair rfl (by decide) _
    obtain ⟨_, d, hd, hmeets⟩ := ((hcheck .allow _ _ hspells).2 reviewRule).mp hfound
    obtain rfl := List.mem_singleton.mp hd
    exact absurd hmeets.2 (by simp [Value.agrees])
  · refine (hname .allow (.text "role") "role" rfl (by decide) reviewRule).mpr (.inr ⟨_,
      (hown reviewRule hmem).1 .allow _ (List.mem_singleton_self _) _ (.pair rfl (by decide) _)⟩)
  · exact (hkey (.text "level") (by simp) (by simp) reviewRule).mpr ⟨.int 2, hlevel⟩
  · rw [(hmetadata _ (by simp)).2 reviewRule]
    rintro ⟨_, m, hm, k, v, hitems, htext, _⟩
    obtain rfl := List.mem_singleton.mp hm
    cases hitems
    exact absurd htext (by decide)

end Newsroom

end Policy
end AccessPolicy
