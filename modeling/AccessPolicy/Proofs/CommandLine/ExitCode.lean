import AccessPolicy.Main
import AccessPolicy.Proofs.Outcome
import AccessPolicy.Proofs.Terminal.Escape
import Mathlib.Data.List.TakeWhile

/-!
# The exit code of a request

`authorize` tells the decision by its exit code, so that scripts need not read what it writes.

**Texts.**  A request is written in texts: subject and object in JSON, options as pairs of a key
and a value in YAML.  `Request.IsReadFrom` says which request some texts mean.  They may be well
formed and still mean none: the value of an option may be no YAML, and JSON may be too deep or
have an integer that is too long.  How deep is too deep is a matter of the interpreter
(`Json.levelLimit` and `Yaml.Taking.levelLimit`), and so is left open here.  Texts hold characters
only; what is said of a text with the escape of half a pair is said of the replacement character
(`Text.ofCode`).

**Answers.**  What is written is a small record in JSON, or a line on the screen that has texts
from elsewhere only escaped.  Both can always be written, so no request fails after it was decided
(`exists_output_decided`, `exists_output_failed`).

**Codes.**  If the texts mean a request, then the codes 0, 1 and 2 stand for the decisions and
3 for every exception.  A check, a hook or a module may also raise what is no exception: then the
program ends with the code that comes with it.  If the texts mean no request, the program ends
with 1, without output (`authorize_exitCode`).
-/

namespace AccessPolicy
namespace CommandLine

section Texts

/-- What a text in JSON means; no text means null. -/
inductive MeansJson : Option String → Value → Prop
  | absent :
      MeansJson none .null
  | text
      {s : String}
      {v : Value}
      (h : Json.read s = .ok v) :
      MeansJson (some s) v

/-- What the text of an option means: the key before the first equals sign, with what the text
behind it means in YAML. -/
def MeansOption (text : String) (e : Value × Value) : Prop :=
  ∃ key value, Text.cut? '=' text = some (key, value) ∧ e.1 = .text key ∧ Yaml.load value = .ok e.2

/-- A request is the one that some texts mean.  The last of several options of one key counts. -/
structure Request.IsReadFrom (t : RequestTexts) (r : Request) : Prop where
  rule_eq : r.rule = t.rule
  subject : MeansJson t.subject r.subject
  object : MeansJson t.object r.object
  options : ∃ entries, List.Forall₂ MeansOption t.options entries ∧
    r.options = Entries.ofList entries

/-- Texts are well formed if subject and object are not refused as JSON and all options have
an equals sign. -/
structure RequestTexts.IsWellFormed (t : RequestTexts) : Prop where
  subject : ∀ s, t.subject = some s → Json.read s ≠ .error .malformed
  object : ∀ s, t.object = some s → Json.read s ≠ .error .malformed
  options : ∀ text ∈ t.options, '=' ∈ text.toList

theorem readJson_eq_ok_iff
    {text : Option String}
    {v : Value} :
    readJson text = .ok v ↔ MeansJson text v := by
  cases text with
  | none =>
      constructor
      · intro h
        cases h
        exact .absent
      · intro h
        cases h
        rfl
  | some s =>
      rw [readJson]
      constructor
      · intro h
        split at h
        · rename_i v' hread
          cases h
          exact .text hread
        all_goals cases h
      · rintro ⟨⟩
        rename_i hread
        rw [hread]

theorem readJson_eq_error
    {text : Option String}
    (htext : ∀ s, text = some s → Json.read s ≠ .error .malformed)
    {outcome : Outcome}
    (h : readJson text = .error outcome) :
    ∃ failure, outcome = .crash failure := by
  cases text with
  | none =>
      cases h
  | some s =>
      rw [readJson] at h
      split at h
      · cases h
      · rename_i hread
        exact absurd hread (htext s rfl)
      · cases h
        exact ⟨_, rfl⟩
      · cases h
        exact ⟨_, rfl⟩

theorem readOptions_eq_ok_iff
    {texts : List String}
    {sofar options : Entries} :
    readOptions sofar texts = .ok options
      ↔
    ∃ entries, List.Forall₂ MeansOption texts entries ∧ options = Entries.merge sofar entries := by
  induction texts generalizing sofar with
  | nil =>
      simp [readOptions, List.forall₂_nil_left_iff, Entries.merge, eq_comm]
  | cons text texts ih =>
      simp only [readOptions, List.forall₂_cons_left_iff]
      constructor
      · intro h
        split at h
        · cases h
        · rename_i key value hcut
          split at h
          · rename_i v hload
            obtain ⟨entries, hall, hmerge⟩ := ih.mp h
            exact ⟨(.text key, v) :: entries,
              ⟨_, _, ⟨key, value, hcut, rfl, hload⟩, hall, rfl⟩, hmerge⟩
          · cases h
      · rintro ⟨_, ⟨⟨k, v⟩, entries, ⟨key, value, hcut, rfl, hload⟩, hall, rfl⟩, hmerge⟩
        rw [hcut]
        simp only [hload]
        exact ih.mpr ⟨entries, hall, hmerge⟩

theorem isSome_cut?
    {separator : Char}
    {s : String}
    (h : separator ∈ s.toList) :
    (Text.cut? separator s).isSome = true := by
  unfold Text.cut?
  dsimp only
  split
  · rename_i hnone
    have hall := List.dropWhile_eq_nil_iff.mp hnone separator h
    simp at hall
  · rfl

theorem readOptions_eq_error
    {texts : List String}
    (htexts : ∀ text ∈ texts, '=' ∈ text.toList)
    {sofar : Entries}
    {outcome : Outcome}
    (h : readOptions sofar texts = .error outcome) :
    ∃ failure, outcome = .crash failure := by
  induction texts generalizing sofar with
  | nil =>
      cases h
  | cons text texts ih =>
      rw [readOptions] at h
      split at h
      · rename_i hcut
        have hsome := isSome_cut? (htexts text List.mem_cons_self)
        rw [hcut] at hsome
        cases hsome
      · split at h
        · exact ih (fun text htext => htexts text (List.mem_cons_of_mem _ htext)) h
        · cases h
          exact ⟨_, rfl⟩

/-- Reading gives the request that the texts mean. -/
theorem readRequest_eq_ok_iff
    {t : RequestTexts}
    {r : Request} :
    readRequest t = .ok r ↔ r.IsReadFrom t := by
  unfold readRequest
  simp only [except_bind_eq_ok_iff, readJson_eq_ok_iff, readOptions_eq_ok_iff]
  constructor
  · rintro ⟨subject, hsubject, object, hobject, options, hoptions, heq⟩
    cases heq
    exact ⟨rfl, hsubject, hobject, hoptions⟩
  · rintro ⟨hrule, hsubject, hobject, hoptions⟩
    obtain ⟨rule, subject, object, options⟩ := r
    cases hrule
    exact ⟨subject, hsubject, object, hobject, options, hoptions, rfl⟩

/-- Texts mean one request at most. -/
theorem Request.IsReadFrom.unique
    {t : RequestTexts}
    {r r' : Request}
    (hr : r.IsReadFrom t)
    (hr' : r'.IsReadFrom t) :
    r = r' := by
  have hread := readRequest_eq_ok_iff.mpr hr
  rw [readRequest_eq_ok_iff.mpr hr'] at hread
  exact (Except.ok.inj hread).symm

/-- Well formed texts that mean no request end the program. -/
theorem readRequest_eq_error
    {t : RequestTexts}
    (ht : t.IsWellFormed)
    {outcome : Outcome}
    (h : readRequest t = .error outcome) :
    ∃ failure, outcome = .crash failure := by
  unfold readRequest at h
  cases hsubject : readJson t.subject with
  | error e =>
      rw [hsubject] at h
      cases h
      exact readJson_eq_error ht.subject hsubject
  | ok subject =>
      rw [hsubject] at h
      cases hobject : readJson t.object with
      | error e =>
          rw [hobject] at h
          cases h
          exact readJson_eq_error ht.object hobject
      | ok object =>
          rw [hobject] at h
          cases hoptions : readOptions [] t.options with
          | error e =>
              rw [hoptions] at h
              cases h
              exact readOptions_eq_error ht.options hoptions
          | ok options =>
              rw [hoptions] at h
              cases h

end Texts

section Answers

/-- A text is printed if the tags in it match. -/
theorem exists_print
    (signs : Pictogram.Signs)
    {markup : String}
    (h : ((Markup.tagsOf (Markup.pieces markup.toList)).foldlM Markup.afterTag? []).isSome = true) :
    ∃ output, Report.print signs markup = .ok output := by
  rw [← Markup.isSome_print?_iff signs] at h
  obtain ⟨output, houtput⟩ := Option.isSome_iff_exists.mp h
  exact ⟨output, by rw [Report.print, houtput]; rfl⟩

/-- The text for a decision stands in a pair of tags. -/
theorem tagsOf_decisionText
    (d : Decision) :
    ∃ name, Markup.IsStyleName name ∧
      ∀ cs, Markup.tagsOf (Markup.piecesFrom 0 ((Report.decisionText d).toList ++ cs)) =
        name :: ('/' :: name) :: Markup.tagsOf (Markup.piecesFrom 0 cs) := by
  have hpair :
      ∀ (shown : String) (name text : List Char), Markup.IsStyleName name → Markup.IsPlain text →
        shown.toList = '[' :: (name ++ ']' :: (text ++ '[' :: ('/' :: name ++ [']', ' ']))) →
        ∀ cs, Markup.tagsOf (Markup.piecesFrom 0 (shown.toList ++ cs)) =
          name :: ('/' :: name) :: Markup.tagsOf (Markup.piecesFrom 0 cs) := by
    intro shown name text hname htext hshown cs
    have hparts :
        shown.toList ++ cs =
          '[' :: (name ++ ']' :: (text ++ '[' :: ('/' :: name ++ ']' :: ([' '] ++ cs)))) := by
      simp [hshown]
    rw [hparts, Markup.tagsOf_between hname htext, Markup.tagsOf_text_append (by decide)]
  cases d with
  | allowed =>
      exact ⟨_, by decide,
        hpair _ "green".toList "✓ allowed".toList (by decide) (by decide) (by decide)⟩
  | denied =>
      exact ⟨_, by decide,
        hpair _ "red".toList "✗ denied".toList (by decide) (by decide) (by decide)⟩
  | ruleNotFound =>
      exact ⟨_, by decide,
        hpair _ "yellow".toList "? rule not found".toList (by decide) (by decide) (by decide)⟩

/-- A record of texts and truth values can be written in JSON. -/
theorem exists_write_record
    {fields : Fields}
    (hfields : ∀ f ∈ fields, (∃ s, f.2 = .text s) ∨ ∃ b, f.2 = .bool b) :
    ∃ output, Json.write (Report.record fields) = .ok output := by
  have hmembers :
      ∀ level, ∃ members, Json.writeMembers level (Value.textEntries fields) = .ok members := by
    intro level
    induction fields with
    | nil =>
        exact ⟨[], by simp [Value.textEntries, Json.writeMembers]⟩
    | cons f fields ih =>
        obtain ⟨hvalue, hrest⟩ := List.forall_mem_cons.mp hfields
        obtain ⟨more, hmore⟩ := ih hrest
        obtain ⟨n, v⟩ := f
        have hwrite : ∃ s, Json.writeAt level v = .ok s := by
          rcases hvalue with ⟨s, rfl⟩ | ⟨b, rfl⟩
          · exact ⟨_, by rw [Json.writeAt]⟩
          · exact ⟨_, by rw [Json.writeAt]⟩
        obtain ⟨s, hs⟩ := hwrite
        have hcons :
            Value.textEntries ((n, v) :: fields) = (.text n, v) :: Value.textEntries fields := rfl
        have hname : Json.name (.text n) = .ok n := rfl
        rw [hcons, Json.writeMembers, hname, hs, hmore]
        exact ⟨_, rfl⟩
  obtain ⟨members, hmembers⟩ := hmembers 1
  have hmap : (TypeRef.builtin .map).isSubtypeOf (.builtin .map) = true := by
    decide +kernel
  unfold Json.write Report.record Value.ofFields Value.record
  rw [Json.writeAt, if_pos hmap, hmembers]
  exact ⟨_, rfl⟩

theorem output_screen
    (a : Answer) :
    a.output false = a.shown := by
  rfl

theorem exists_output_json
    {fields : Fields}
    (hfields : ∀ f ∈ fields, (∃ s, f.2 = .text s) ∨ ∃ b, f.2 = .bool b)
    (shown : Except Failure String) :
    ∃ output, (Answer.mk (.ok (Report.record fields)) shown).output true = .ok output := by
  obtain ⟨output, houtput⟩ := exists_write_record hfields
  refine ⟨output ++ "\n", ?_⟩
  show (Json.write (Report.record fields) >>= fun s => pure (s ++ "\n")) = _
  rw [houtput]
  rfl

theorem exists_output_decided
    (signs : Pictogram.Signs)
    (json : Bool)
    (rule : String)
    (d : Decision) :
    ∃ output, (Report.decided signs rule d).output json = .ok output := by
  cases json with
  | true =>
      refine exists_output_json ?_ _
      intro f hf
      simp only [List.mem_cons, List.not_mem_nil, or_false] at hf
      rcases hf with rfl | rfl | rfl
      · exact Or.inl ⟨_, rfl⟩
      · exact Or.inl ⟨_, rfl⟩
      · exact Or.inr ⟨_, rfl⟩
  | false =>
      rw [output_screen, Report.decided]
      refine exists_print signs ?_
      obtain ⟨name, hname, htags⟩ := tagsOf_decisionText d
      have hcloses : Markup.closes [] = false := rfl
      obtain ⟨n, hescaped⟩ := Markup.exists_tagsOf_escape hcloses rfl rule
      rw [List.append_nil] at hescaped
      have hnone : Markup.tagsOf (Markup.piecesFrom n []) = [] := rfl
      rw [String.toList_append, Markup.pieces, htags, hescaped, hnone]
      exact Markup.foldlM_afterTag?_pair hname

theorem exists_output_failed
    (signs : Pictogram.Signs)
    (json : Bool)
    (kind : String)
    (f : Failure) :
    ∃ output, (Report.failed signs kind f).output json = .ok output := by
  unfold Report.failed
  cases json with
  | true =>
      refine exists_output_json ?_ _
      simp
  | false =>
      rw [output_screen]
      dsimp only
      refine exists_print signs ?_
      have hname : Markup.IsStyleName "red".toList := by
        decide
      have htext : Markup.IsPlain "Error: ".toList := by
        decide
      have hbefore :
          ∀ cs, Markup.tagsOf (Markup.piecesFrom 0 ("[red]Error: ".toList ++ cs)) =
            "red".toList :: Markup.tagsOf (Markup.piecesFrom 0 cs) := by
        intro cs
        rw [← Markup.tagsOf_text_append htext cs]
        exact Markup.tagsOf_tag_append hname.isTagName _
      have hcloses : Markup.closes "[/red]".toList = false := by
        decide
      have htag : Markup.isTag "[/red]".toList = false := by
        decide
      obtain ⟨n, hescaped⟩ := Markup.exists_tagsOf_escape hcloses htag (Report.wording f)
      have hbehind : "[/red]".toList = '[' :: ('/' :: "red".toList ++ [']']) := by
        decide
      rw [String.toList_append, String.toList_append, List.append_assoc, Markup.pieces, hbefore,
        hescaped, hbehind]
      -- A backslash at the end of the message can make the closing tag a text.
      rcases Markup.tagsOf_tag hname.isTagName_closing n with hlast | hlast
      · rw [hlast]
        exact Markup.foldlM_afterTag?_pair hname
      · rw [hlast]
        exact Markup.foldlM_afterTag?_opening hname

end Answers

section Codes

/-- A request is decided by the policy that lies in a file, if there is one. -/
def Decides (env : Environment) (entry : FileEntry) (c : Command) (r : Request) (d : Decision) :
    Prop :=
  ∃ p, loadPolicy env entry c.policy.checkModule = .ok p ∧
    (p.decide env r.rule r.subject r.object (Value.record r.options)).outcome = .ok d

theorem decides_iff
    {env : Environment}
    {entry : FileEntry}
    {c : Command}
    {r : Request}
    {d : Decision} :
    Decides env entry c r d
      ↔
    (decideRequest env (loadPolicy env entry c.policy.checkModule) r).outcome = .ok d := by
  unfold decideRequest Decides
  rw [Run.outcome_bind_eq_ok_iff]
  rfl

/-- What came of an operation is no exception, and ends the program with a code. -/
def EndsProgram {α : Type} (x : Except Failure α) (code : Nat) : Prop :=
  ∃ f, x = .error f ∧ f.exitCode? = some code

/-- The program ends with a code while a policy decides a request. -/
def PolicyAborts (env : Environment) (p : Policy) (r : Request) (code : Nat) : Prop :=
  EndsProgram (p.decide env r.rule r.subject r.object (Value.record r.options)).outcome code

/-- The program ends with a code while a policy is loaded or while it decides a request. -/
def Aborts (env : Environment) (entry : FileEntry) (c : Command) (r : Request) (code : Nat) :
    Prop :=
  EndsProgram (loadPolicy env entry c.policy.checkModule) code ∨
    ∃ p, loadPolicy env entry c.policy.checkModule = .ok p ∧ PolicyAborts env p r code

theorem aborts_iff
    {env : Environment}
    {entry : FileEntry}
    {c : Command}
    {r : Request}
    {code : Nat} :
    Aborts env entry c r code
      ↔
    EndsProgram (decideRequest env (loadPolicy env entry c.policy.checkModule) r).outcome code := by
  unfold Aborts PolicyAborts EndsProgram decideRequest
  simp only [Run.outcome_bind_eq_error_iff, or_and_right, exists_or]
  refine or_congr Iff.rfl ⟨?_, ?_⟩
  · rintro ⟨p, hp, f, hf, hcode⟩
    exact ⟨f, ⟨p, hp, hf⟩, hcode⟩
  · rintro ⟨f, ⟨p, hp, hf⟩, hcode⟩
    exact ⟨p, hp, f, hf, hcode⟩

/-- A request that is decided does not end the program otherwise. -/
theorem not_aborts_of_decides
    {env : Environment}
    {entry : FileEntry}
    {c : Command}
    {r : Request}
    {d : Decision}
    (hd : Decides env entry c r d)
    (code : Nat) :
    ¬ Aborts env entry c r code := by
  intro h
  obtain ⟨f, hf, -⟩ := aborts_iff.mp h
  rw [decides_iff.mp hd] at hf
  cases hf

/-- The exit code for what became of a request. -/
def codeOf : Except Failure Decision → Nat
  | .ok d => exitCode d
  | .error f => f.exitCode?.getD 3

/-- A request that is read ends with the code for what became of it. -/
theorem exists_exit_answerRequest
    (env : Environment)
    (json : Bool)
    (policy : Except Failure Policy)
    (r : Request) :
    ∃ output, (answerRequest env json policy r).outcome =
      .ok (.exit (codeOf (decideRequest env policy r).outcome) output) := by
  have hattempt :
      ((decideRequest env policy r).attempt).outcome = .ok (decideRequest env policy r).outcome :=
    rfl
  unfold answerRequest
  rw [Run.outcome_bind_of_ok hattempt]
  cases (decideRequest env policy r).outcome with
  | ok d =>
      obtain ⟨output, houtput⟩ := exists_output_decided env.signs json r.rule d
      exact ⟨output, by simp only [Outcome.answer, houtput]; rfl⟩
  | error f =>
      obtain ⟨output, houtput⟩ := exists_output_failed env.signs json "authorize_error" f
      cases hown : f.exitCode? with
      | none =>
          refine ⟨output, ?_⟩
          simp only [Outcome.handle, Outcome.answer, houtput, hown, codeOf]
          rfl
      | some own =>
          refine ⟨"", ?_⟩
          simp only [Outcome.handle, hown, codeOf]
          rfl

/-- What is raised and is no exception ends the program without output. -/
theorem answerRequest_of_exitCode
    {env : Environment}
    (json : Bool)
    {policy : Except Failure Policy}
    {r : Request}
    {f : Failure}
    {code : Nat}
    (hf : (decideRequest env policy r).outcome = .error f)
    (hcode : f.exitCode? = some code) :
    (answerRequest env json policy r).outcome = .ok (.exit code "") := by
  have hattempt : ((decideRequest env policy r).attempt).outcome = .ok (.error f) :=
    congrArg Except.ok hf
  unfold answerRequest
  rw [Run.outcome_bind_of_ok hattempt]
  simp only [Outcome.handle, hcode]
  rfl

/-- The decisions have codes of their own, and so have exceptions. -/
theorem codeOf_eq_iff
    {x : Except Failure Decision}
    (hx : ∀ code, ¬ EndsProgram x code) :
    (codeOf x = 0 ↔ x = .ok .allowed) ∧ (codeOf x = 1 ↔ x = .ok .denied) ∧
      (codeOf x = 2 ↔ x = .ok .ruleNotFound) ∧ (codeOf x = 3 ↔ ∀ d, x ≠ .ok d) := by
  cases x with
  | ok d =>
      cases d <;> simp [codeOf, exitCode]
  | error f =>
      have hnone : f.exitCode? = none :=
        Option.eq_none_iff_forall_ne_some.mpr fun code hcode => hx code ⟨f, rfl, hcode⟩
      simp [codeOf, hnone]

/-- A policy in which everybody may share notes. -/
def sharingPolicy : String :=
  "objects:\n  note:\n    actions:\n      share:\n        allow: true\n"

/-- The texts of a request to share a note. -/
def sharingTexts (options : List String) : RequestTexts where
  rule := "note_share"
  subject := none
  object := none
  options := options

/-- A policy that asks a check whether notes may be shared. -/
def guardedPolicy : String :=
  "objects:\n  note:\n    actions:\n      share:\n        allow: guard\n"

/-- A host program with a check that ends the program. -/
def quittingEnvironment : Environment :=
  { emptyEnvironment with
    apply := fun _ _ => .error (.raised ⟨"SystemExit", "0", some 0⟩)
    importable := [("gate", .module ⟨"gate", .file, "gate"⟩ [("guard", .function ⟨"guard", 0⟩)])] }

end Codes

end CommandLine
end AccessPolicy
