import AccessPolicy.Proofs.CommandLine.ExitCode
import AccessPolicy.Proofs.CommandLine.Listing
import AccessPolicy.Proofs.Decision

/-!
# Agreement of the commands

`validate`, `rules` and `authorize` load a policy in the same way, and then each of them has an
answer and exit codes of its own.

**Policies that do not load.**  All three commands fail: `validate` and `rules` end with 1, and
`authorize` ends with 3 for every request that it can read.  If a module raises what is no
exception, they all end with the code that comes with it.  Which texts load depends on how deeply
data may nest (`Yaml.Taking.levelLimit`), but is the same for all commands.

**Policies that load.**  `validate` reports the names of the rules, and `authorize` ends with 2
for every name but these.  `rules` lists the rules under these names, in this order and with
their number, unless an integer is too long to be written: then it ends with 1 and without
output, although the policy is valid (`commands_agree`).
-/

namespace AccessPolicy
namespace CommandLine

/-- What lies at the path of a policy holds plain data, if it holds data at all. -/
def FileEntry.IsPlain (entry : FileEntry) : Prop :=
  ∀ content v, entry = .text content → Yaml.load content = .ok v → v.isPlain = true

/-- What lies at the path of a policy holds no integer that is too long to be written. -/
def FileEntry.IsWritable (entry : FileEntry) : Prop :=
  ∀ content v, entry = .text content → Yaml.load content = .ok v → v.isWritable = true

/-- Some texts mean a request. -/
def RequestTexts.IsMeant (t : RequestTexts) : Prop :=
  ∃ r : Request, r.IsReadFrom t

namespace Outcome

/-- An outcome reports a valid policy with rules of some names. -/
def ReportsValid (outcome : Outcome) (policy : String) (names : List String) : Prop :=
  ∃ text, Json.write (Report.record
      [("valid", .bool true), ("policy", .text policy), ("rules", Report.texts names)]) =
        .ok text ∧
    outcome = .exit 0 (text ++ "\n")

/-- An outcome lists rules of some names, in order and with their number. -/
def Lists (outcome : Outcome) (policy : String) (names : List String) : Prop :=
  ∃ text, Report.IsListing text policy names ∧ outcome = .exit 0 (text ++ "\n")

end Outcome

section Loading

variable {env : Environment} {entry : FileEntry} {checkModule : Option String} {p : Policy}

theorem exists_ofText_of_documentOf
    {d : PolicyDocument}
    (hd : documentOf entry = .ok d) :
    ∃ content, entry = .text content ∧ PolicyDocument.ofText content = .ok d := by
  unfold documentOf at hd
  split at hd
  · cases hd
  · split at hd
    · cases hd
    · exact ⟨_, rfl, hd⟩

/-- The rules of a policy inherit from the data of its file. -/
theorem holds_of_loadPolicy
    {P : Value → Prop}
    (hP : Value.Inherited P)
    (hentry : ∀ content v, entry = .text content → Yaml.load content = .ok v → P v)
    (hp : loadPolicy env entry checkModule = .ok p) :
    ∀ r ∈ p.table.rules, r.Holds P := by
  obtain ⟨d, hd, hp⟩ := except_bind_eq_ok_iff.mp hp
  obtain ⟨content, hcontent, hd⟩ := exists_ofText_of_documentOf hd
  obtain ⟨v, hv, hvalidate⟩ := PolicyDocument.exists_load_of_ofText hd
  have hdata := hentry content v hcontent hv
  obtain ⟨entries, _, hread⟩ := PolicyDocument.exists_fields_of_validate hP hdata hvalidate
  have hname := (PolicyDocument.objects_of_readFields hread).1
  exact PolicyDocument.holds_of_toRules hP hdata hvalidate
    (PolicyDocument.toRules_of_ofDocument hname hp)

end Loading

section Answers

variable (env : Environment) (p : Policy)

theorem code_handle_one
    (json : Bool)
    (report : Failure → Answer)
    {f : Failure}
    (hf : f.exitCode? = none) :
    (Outcome.handle json 1 report f).code = 1 := by
  simp only [Outcome.handle, hf, Outcome.answer]
  split <;> rfl

theorem reportsValid_validate :
    (validate env true (.ok p)).ReportsValid p.name p.ruleNames := by
  obtain ⟨hplain, hwritable⟩ := Report.isPlain_texts p.ruleNames
  have hrecord :
      errorOf? (Json.write (Report.record
        [("valid", .bool true), ("policy", .text p.name),
          ("rules", Report.texts p.ruleNames)])) = none := by
    rw [Json.write, Report.record, Json.errorOf?_writeAt (Value.isPlain_ofFields ?_),
      Value.isWritable_ofFields]
    · simp only [List.map_cons, List.map_nil, List.all_cons, List.all_nil, hwritable]
      rfl
    · simp only [List.forall_mem_cons]
      exact ⟨rfl, rfl, hplain, by simp⟩
  obtain ⟨text, htext⟩ := errorOf?_eq_none_iff.mp hrecord
  have houtput : (Report.valid env.signs p).output true = .ok (text ++ "\n") :=
    congrArg (fun written => written >>= fun s => pure (s ++ "\n")) htext
  exact ⟨text, htext, by simp only [validate, Outcome.answer, houtput]⟩

/-- Without filters, all rules are listed. -/
theorem matchingRules_none :
    matchingRules (.ok p) ⟨none, none, none, none, none⟩ = .ok (p, p.table.rules) := by
  have hselect : ∀ rules, RuleFilter.select [] rules = .ok rules := by
    intro rules
    induction rules with
    | nil =>
        rfl
    | cons r rest ih =>
        rw [RuleFilter.select, ih]
        rfl
  have hlist :
      p.listRules
          [("object", .null), ("action", .null), ("allow", .null), ("deny", .null),
            ("metadata", .null)] =
        .ok p.table.rules :=
    hselect p.table.rules
  exact congrArg (fun listed => listed >>= fun rules => pure (p, rules)) hlist

theorem outcome_listRules
    (hrules : ∀ r ∈ p.table.rules, r.Holds fun v => v.isPlain = true) :
    (Report.isListable p.table.rules = true →
      (listRules env true (.ok p) ⟨none, none, none, none, none⟩).Lists p.name p.ruleNames) ∧
    (Report.isListable p.table.rules = false →
      listRules env true (.ok p) ⟨none, none, none, none, none⟩ = .crash .unwritable) := by
  have hnames : p.ruleNames = p.table.rules.map Rule.name := by
    rw [Policy.ruleNames, RuleTable.names, RuleTable.rules, List.map_map]
    rfl
  obtain ⟨hlisted, hcrash⟩ := Report.output_rules env.signs p hrules
  rw [listRules, matchingRules_none, hnames]
  refine ⟨fun h => ?_, fun h => ?_⟩
  · obtain ⟨text, htext, houtput⟩ := hlisted h
    exact ⟨text, htext, by simp only [Outcome.answer, houtput]⟩
  · simp only [Outcome.answer, hcrash h]

end Answers

section Requests

variable {env : Environment} {p : Policy}

/-- A request is told that there is no rule iff no rule has the name. -/
theorem outcome_decide_eq_ruleNotFound_iff
    (name : String)
    (subject object options : Value) :
    (p.decide env name subject object options).outcome = .ok .ruleNotFound
      ↔
    name ∉ p.ruleNames := by
  cases hget : p.table.get? name with
  | none =>
      have habsent : name ∉ p.ruleNames := by
        rintro hname
        obtain ⟨c, hc, rfl⟩ := List.mem_map.mp hname
        have hnot := List.find?_eq_none.mp hget c hc
        simp at hnot
      exact iff_of_true (Policy.outcome_decide_of_get?_eq_none hget ..) habsent
  | some c =>
      have hname : name ∈ p.ruleNames :=
        List.mem_map.mpr
          ⟨c, List.mem_of_find?_eq_some hget, by simpa using List.find?_some hget⟩
      rw [Policy.outcome_decide_eq_ok_iff hget]
      refine iff_of_false ?_ (not_not_intro hname)
      rintro ⟨pair, _, hjudge⟩
      exact Policy.outcome_judge_ne_ruleNotFound c pair.1 pair.2 hjudge

/-- A request whose rule has none of the names ends with 2, and so does one that something ends
with this code. -/
theorem codeOf_decideRequest_eq_two_iff
    {r : Request} :
    codeOf (decideRequest env (.ok p) r).outcome = 2
      ↔
    r.rule ∉ p.ruleNames ∨ PolicyAborts env p r 2 := by
  have hmissing :
      (decideRequest env (.ok p) r).outcome = .ok .ruleNotFound ↔ r.rule ∉ p.ruleNames :=
    outcome_decide_eq_ruleNotFound_iff r.rule r.subject r.object (Value.record r.options)
  have haborts :
      PolicyAborts env p r 2 ↔ EndsProgram (decideRequest env (.ok p) r).outcome 2 :=
    Iff.rfl
  rw [← hmissing, haborts, EndsProgram]
  cases (decideRequest env (.ok p) r).outcome with
  | ok d =>
      cases d <;> simp [codeOf, exitCode]
  | error f =>
      cases hf : f.exitCode? <;> simp [codeOf, hf]

/-- Well formed texts of a request end with 1, or they mean a request and end with the code for
what becomes of it. -/
theorem exists_outcome_authorize
    (env : Environment)
    (json : Bool)
    (policy : Except Failure Policy)
    {t : RequestTexts}
    (ht : t.IsWellFormed) :
    ∃ outcome, (authorize env json policy t).outcome = .ok outcome ∧
      ((¬ t.IsMeant ∧ outcome.code = 1) ∨
        ∃ r : Request, r.IsReadFrom t ∧
          outcome.code = codeOf (decideRequest env policy r).outcome) := by
  rw [authorize]
  cases hrequest : readRequest t with
  | error outcome =>
      obtain ⟨failure, rfl⟩ := readRequest_eq_error ht hrequest
      refine ⟨_, rfl, .inl ⟨?_, rfl⟩⟩
      rintro ⟨r, hr⟩
      rw [readRequest_eq_ok_iff.mpr hr] at hrequest
      cases hrequest
  | ok r =>
      obtain ⟨output, hanswer⟩ := exists_exit_answerRequest env json policy r
      exact ⟨_, hanswer, .inr ⟨r, readRequest_eq_ok_iff.mp hrequest, rfl⟩⟩

end Requests

section Agreement

variable (env : Environment) {files : Files} {source : PolicySource} {entry : FileEntry}

/-- Every request on the policy of a source whose texts are well formed ends, and it ends with a
code iff the texts have a property. -/
def RequestsEnd (files : Files) (source : PolicySource) (code : Nat) (P : RequestTexts → Prop) :
    Prop :=
  ∀ args t json, Invocation.read args = .command ⟨source, .authorize t, json⟩ →
    t.IsWellFormed →
    ∃ outcome, (run env files args).outcome = .ok outcome ∧ (outcome.code = code ↔ P t)

/-- Every request on the policy of a source that some texts mean ends the program with a code and
without output. -/
def RequestsExit (files : Files) (source : PolicySource) (code : Nat) : Prop :=
  ∀ args t json, Invocation.read args = .command ⟨source, .authorize t, json⟩ → t.IsMeant →
    (run env files args).outcome = .ok (.exit code "")

variable {env}

theorem run_of_read
    {args : List String}
    {task : Task}
    {json : Bool}
    (hfile : files.entry? source.path = some entry)
    (hread : Invocation.read args = .command ⟨source, task, json⟩) :
    run env files args = perform env ⟨source, task, json⟩ entry := by
  unfold run
  simp only [hread, hfile]

theorem requestsEnd_of_ok
    {p : Policy}
    (hfile : files.entry? source.path = some entry)
    (hp : loadPolicy env entry source.checkModule = .ok p) :
    RequestsEnd env files source 2 fun t =>
      ∃ r : Request, r.IsReadFrom t ∧ (r.rule ∉ p.ruleNames ∨ PolicyAborts env p r 2) := by
  intro args t json hread ht
  obtain ⟨outcome, hauthorize, hcode⟩ := exists_outcome_authorize env json (.ok p) ht
  refine ⟨outcome, ?_, ?_⟩
  · rw [run_of_read hfile hread, perform, hp]
    exact hauthorize
  · obtain ⟨hmeant, hone⟩ | ⟨r, hr, hcode⟩ := hcode
    · exact iff_of_false (by simp [hone]) fun ⟨r, hr, _⟩ => hmeant ⟨r, hr⟩
    · rw [hcode, codeOf_decideRequest_eq_two_iff]
      refine ⟨fun h => ⟨r, hr, h⟩, ?_⟩
      rintro ⟨r', hr', h⟩
      rw [hr.unique hr']
      exact h

theorem requestsEnd_of_error
    {f : Failure}
    (hfile : files.entry? source.path = some entry)
    (hp : loadPolicy env entry source.checkModule = .error f)
    (hf : f.exitCode? = none) :
    RequestsEnd env files source 3 fun t => t.IsMeant := by
  intro args t json hread ht
  obtain ⟨outcome, hauthorize, hcode⟩ := exists_outcome_authorize env json (.error f) ht
  refine ⟨outcome, ?_, ?_⟩
  · rw [run_of_read hfile hread, perform, hp]
    exact hauthorize
  · obtain ⟨hmeant, hone⟩ | ⟨r, hr, hcode⟩ := hcode
    · exact iff_of_false (by simp [hone]) hmeant
    · have hthree : codeOf (decideRequest env (.error f) r).outcome = 3 :=
        congrArg (Option.getD · 3) hf
      exact iff_of_true (hcode.trans hthree) ⟨r, hr⟩

theorem requestsExit_of_error
    {f : Failure}
    {code : Nat}
    (hfile : files.entry? source.path = some entry)
    (hp : loadPolicy env entry source.checkModule = .error f)
    (hf : f.exitCode? = some code) :
    RequestsExit env files source code := by
  intro args t json hread hmeant
  obtain ⟨r, hr⟩ := hmeant
  rw [run_of_read hfile hread, perform, hp]
  show (authorize env json (.error f) t).outcome = _
  rw [authorize, readRequest_eq_ok_iff.mpr hr]
  exact answerRequest_of_exitCode json rfl hf

/-- What the rules of a policy hold can be written if the data of its file can. -/
theorem isListable_of_isWritable
    {p : Policy}
    (hplain : entry.IsPlain)
    (hwritable : entry.IsWritable)
    (hp : loadPolicy env entry source.checkModule = .ok p) :
    Report.isListable p.table.rules = Literal.isWritable p.ruleNames.length := by
  have hholds := holds_of_loadPolicy Value.inherited_isWritable
    (fun content v hcontent hv => ⟨hplain content v hcontent hv, hwritable content v hcontent hv⟩)
    hp
  have hall : (p.table.rules.all fun r => r.values.all Value.isWritable) = true := by
    simp only [List.all_eq_true]
    exact fun r hr v hv => ((hholds r hr).values v hv).2
  have hlength : p.table.rules.length = p.ruleNames.length := by
    simp [Policy.ruleNames, RuleTable.names, RuleTable.rules]
  rw [Report.isListable, hall, hlength, Bool.and_true]

/-- **The commands agree.**  On a policy file that exists and holds plain data, either no command
has a policy, or all have the same.  In the first case `validate` and `rules` end with 1, and
well formed texts of a request end with 3 iff they mean one, unless a module raises what is no
exception: then all commands end with its code, and without output.  In the second case `validate`
reports the names of the rules, well formed texts of a request end with 2 iff they mean one and
its rule has none of these names, or what is no exception is raised with this code, and `rules`
lists the rules of these names in this order and with their number, provided that all integers of
the listing can be written.  If not, it ends without output; this needs a long integer in the
file. -/
theorem commands_agree
    (env : Environment)
    {files : Files}
    {source : PolicySource}
    {entry : FileEntry}
    {validation listing : List String}
    (hfile : files.entry? source.path = some entry)
    (hplain : entry.IsPlain)
    (hvalidation : Invocation.read validation = .command ⟨source, .validate, true⟩)
    (hlisting :
      Invocation.read listing =
        .command ⟨source, .rules ⟨none, none, none, none, none⟩, true⟩) :
    ∃ validated listed,
      (run env files validation).outcome = .ok validated ∧
      (run env files listing).outcome = .ok listed ∧
      ((∃ p, loadPolicy env entry source.checkModule = .ok p ∧
          validated.ReportsValid p.name p.ruleNames ∧
          (Report.isListable p.table.rules = true → listed.Lists p.name p.ruleNames) ∧
          (Report.isListable p.table.rules = false → listed = .crash .unwritable) ∧
          (entry.IsWritable →
            Report.isListable p.table.rules = Literal.isWritable p.ruleNames.length) ∧
          RequestsEnd env files source 2 fun t =>
            ∃ r : Request, r.IsReadFrom t ∧
              (r.rule ∉ p.ruleNames ∨ PolicyAborts env p r 2)) ∨
        (∃ f, loadPolicy env entry source.checkModule = .error f ∧
          (f.exitCode? = none →
            validated.code = 1 ∧ listed.code = 1 ∧
            RequestsEnd env files source 3 fun t => t.IsMeant) ∧
          ∀ code, f.exitCode? = some code →
            validated = .exit code "" ∧ listed = .exit code "" ∧
            RequestsExit env files source code)) := by
  rw [run_of_read hfile hvalidation, run_of_read hfile hlisting, perform, perform]
  refine ⟨_, _, rfl, rfl, ?_⟩
  cases hp : loadPolicy env entry source.checkModule with
  | error f =>
      refine .inr ⟨f, rfl, fun hf => ?_, fun code hf => ?_⟩
      · exact ⟨code_handle_one true _ hf, code_handle_one true _ hf,
          requestsEnd_of_error hfile hp hf⟩
      · have hhandle :
            ∀ report, Outcome.handle true 1 report f = .exit code "" := by
          intro report
          simp only [Outcome.handle, hf]
        exact ⟨hhandle _, hhandle _, requestsExit_of_error hfile hp hf⟩
  | ok p =>
      have hholds := holds_of_loadPolicy Value.inherited_isPlain hplain hp
      obtain ⟨hlists, hcrash⟩ := outcome_listRules env p hholds
      exact .inl ⟨p, rfl, reportsValid_validate env p, hlists, hcrash,
        fun hwritable => isListable_of_isWritable hplain hwritable hp,
        requestsEnd_of_ok hfile hp⟩

/-- A policy file without any policy. -/
def brokenPolicy : String :=
  "objects: 1\n"

/-- The commands report and list the one rule for notes and know no other; of a broken policy they
report, list and decide nothing. -/
theorem sharing_commands :
    (∃ validated listed decided,
      (run emptyEnvironment [("p.yaml", sharingPolicy)]
        ["validate", "p.yaml", "--json"]).outcome = .ok validated ∧
      (run emptyEnvironment [("p.yaml", sharingPolicy)]
        ["rules", "p.yaml", "--json"]).outcome = .ok listed ∧
      (run emptyEnvironment [("p.yaml", sharingPolicy)]
        ["authorize", "p.yaml", "note_read"]).outcome = .ok decided ∧
      validated.ReportsValid "policy" ["note_share"] ∧ listed.Lists "policy" ["note_share"] ∧
      decided.code = 2) ∧
    ∃ validated listed decided,
      (run emptyEnvironment [("p.yaml", brokenPolicy)]
        ["validate", "p.yaml", "--json"]).outcome = .ok validated ∧
      (run emptyEnvironment [("p.yaml", brokenPolicy)]
        ["rules", "p.yaml", "--json"]).outcome = .ok listed ∧
      (run emptyEnvironment [("p.yaml", brokenPolicy)]
        ["authorize", "p.yaml", "note_read"]).outcome = .ok decided ∧
      validated.code = 1 ∧ listed.code = 1 ∧ decided.code = 3 := by
  have hvalidation :
      Invocation.read ["validate", "p.yaml", "--json"] =
        .command ⟨⟨"p.yaml", none⟩, .validate, true⟩ := by
    decide +kernel
  have hlisting :
      Invocation.read ["rules", "p.yaml", "--json"] =
        .command ⟨⟨"p.yaml", none⟩, .rules ⟨none, none, none, none, none⟩, true⟩ := by
    decide +kernel
  have hrequest :
      Invocation.read ["authorize", "p.yaml", "note_read"] =
        .command ⟨⟨"p.yaml", none⟩, .authorize ⟨"note_read", none, none, []⟩, false⟩ := by
    decide +kernel
  have ht : RequestTexts.IsWellFormed ⟨"note_read", none, none, []⟩ :=
    ⟨by simp, by simp, by simp⟩
  have hmeant : RequestTexts.IsMeant ⟨"note_read", none, none, []⟩ :=
    ⟨⟨"note_read", .null, .null, []⟩, rfl, .absent, .absent, [], .nil, rfl⟩
  have hplain :
      ∀ text, (Yaml.load text).toOption.all Value.isPlain = true →
        (FileEntry.text text).IsPlain := by
    rintro text hall content v ⟨rfl⟩ hload
    rw [hload] at hall
    exact hall
  constructor
  · have hfile :
        Files.entry? [("p.yaml", sharingPolicy)] "p.yaml" = some (.text sharingPolicy) := by
      decide +kernel
    have hloaded :
        (loadPolicy emptyEnvironment (.text sharingPolicy) none).toOption.map
            (fun p => (p.name, p.ruleNames, Report.isListable p.table.rules)) =
          some ("policy", ["note_share"], true) := by
      decide +kernel
    obtain ⟨validated, listed, hvalidated, hlisted, hagree⟩ :=
      commands_agree emptyEnvironment hfile (hplain sharingPolicy (by decide +kernel)) hvalidation
        hlisting
    obtain ⟨p, hp, hreports, hlists, -, -, hrequests⟩ | ⟨f, hf, -⟩ := hagree
    · rw [hp] at hloaded
      have hpolicy := Option.some.inj hloaded
      simp only [Prod.mk.injEq] at hpolicy
      obtain ⟨hname, hnames, hlistable⟩ := hpolicy
      have hlisted' := hlists hlistable
      rw [hname, hnames] at hreports hlisted'
      obtain ⟨decided, hdecided, hcode⟩ := hrequests _ _ _ hrequest ht
      refine ⟨validated, listed, decided, hvalidated, hlisted, hdecided, hreports, hlisted',
        hcode.mpr ⟨_, hmeant.choose_spec, .inl ?_⟩⟩
      rw [hmeant.choose_spec.rule_eq, hnames]
      decide
    · rw [hf] at hloaded
      cases hloaded
  · have hfile :
        Files.entry? [("p.yaml", brokenPolicy)] "p.yaml" = some (.text brokenPolicy) := by
      decide +kernel
    have hbroken :
        (loadPolicy emptyEnvironment (.text brokenPolicy) none).toOption.isNone = true := by
      decide +kernel
    have hbrokenCode :
        (errorOf? (loadPolicy emptyEnvironment (.text brokenPolicy) none)).map
            Failure.exitCode? =
          some none := by
      decide +kernel
    obtain ⟨validated, listed, hvalidated, hlisted, hagree⟩ :=
      commands_agree emptyEnvironment hfile (hplain brokenPolicy (by decide +kernel)) hvalidation
        hlisting
    obtain ⟨p, hp, -⟩ | ⟨f, hf, hexception, -⟩ := hagree
    · rw [hp] at hbroken
      cases hbroken
    · have hnone : f.exitCode? = none := by
        rw [hf] at hbrokenCode
        exact Option.some.inj hbrokenCode
      obtain ⟨hinvalid, hunlisted, hrequests⟩ := hexception hnone
      obtain ⟨decided, hdecided, hcode⟩ := hrequests _ _ _ hrequest ht
      exact ⟨validated, listed, decided, hvalidated, hlisted, hdecided, hinvalid, hunlisted,
        hcode.mpr hmeant⟩

end Agreement

end CommandLine
end AccessPolicy
