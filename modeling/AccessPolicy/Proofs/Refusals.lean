import AccessPolicy.Proofs.Requests
import AccessPolicy.Proofs.TextEntries

/-!
# What a refusal tells

A request that is enforced and not allowed ends with a fault that is made of the settings of the
policy.  This module says what such a fault tells people and programs.

**Faults.**  A fault for a refusal can always be made, and it is determined by the rule, the reason
and the message that are given (`Fault.make_unauthorized`).  Since a message that counts as false is
filled in, an empty message is not kept (`Fault.refusalText`).

**Requests.**  Whether the rule exists makes no difference to what is told
(`Policy.enforce_tells_refusal`).
-/

namespace AccessPolicy

namespace Fault

/-- The text of a refusal for which a message is given. -/
def refusalText (message : String) : String :=
  if message = "" then "unauthorized" else message

theorem refusalText_eq_iff
    {message : String} :
    refusalText message = message ↔ message ≠ "" := by
  unfold refusalText
  split
  · rename_i hempty
    simp [hempty]
  · rename_i hfull
    simp [hfull]

section Making

variable (rule reason : Value) (message : String)

/-- The fault that is made for a refusal. -/
def refusal : Fault where
  cause := .unauthorized rule reason
  message := .text (refusalText message)
  code := .int 1001
  suggestion := .null
  context := Value.ofFields [("rule", rule), ("reason", reason)]

theorem fullContext_unauthorized :
    fullContext (.unauthorized rule reason) (Value.record []) =
      .ok (Value.ofFields [("rule", rule), ("reason", reason)]) := by
  have hmap : (TypeRef.builtin .map).isSubtypeOf (.builtin .map) = true := by
    decide
  have hkey : (Value.text "reason").text? = some "reason" := by
    rfl
  simp only [fullContext, Value.record, hmap, if_true]
  show Except.ok (Value.map _ (Entries.set [(.text "rule", rule)] (.text "reason") reason)) = _
  rw [Entries.set_cons hkey, if_neg (by simp [Value.text?])]
  rfl

/-- A fault for a refusal can be made, and keeps the given message unless that is empty. -/
theorem make_unauthorized :
    make (.unauthorized rule reason) { message := .text message } =
      .ok (refusal rule reason message) := by
  by_cases hempty : message = ""
  · subst hempty
    unfold make
    rw [fullContext_unauthorized]
    rfl
  · have htrue : (Value.text message).isTrue = true := by
      simp [Value.isTrue, hempty]
    rw [refusal, refusalText, if_neg hempty]
    simp only [make, htrue, or_true, if_true, fullContext_unauthorized]
    rfl

theorem of_unauthorized :
    Fault.of (.unauthorized rule reason) { message := .text message } =
      refusal rule reason message := by
  rw [Fault.of, make_unauthorized]

end Making

end Fault

namespace Policy

variable {env : Environment} {p : Policy} {name : String} {subject object options : Value}

/-- **What a refusal tells.**  A request that is decided and not allowed ends with a fault that
has the name of the rule and the reason of the policy, in its cause and in its context.  Its message
is the one of the policy, and shown as it is, iff that is not empty. -/
theorem enforce_tells_refusal
    {d : Decision}
    (hd : (p.decide env name subject object options).outcome = .ok d)
    (hrefused : d ≠ .allowed) :
    ∃ f : Fault,
      (p.enforce env name subject object options).outcome = .error (.fault f) ∧
      f.cause = .unauthorized (.text name) p.config.errorReason ∧
      f.context = Value.ofFields [("rule", .text name), ("reason", p.config.errorReason)] ∧
      f.message = .text (Fault.refusalText p.config.errorMessage) ∧
      f.text? = some (Fault.refusalText p.config.errorMessage) ∧
      (Fault.refusalText p.config.errorMessage = p.config.errorMessage ↔
        p.config.errorMessage ≠ "") := by
  have hfault := Fault.of_unauthorized (.text name) p.config.errorReason p.config.errorMessage
  have houtcome :
      (p.enforce env name subject object options).outcome =
        .error (.fault (p.refusalFault name)) := by
    rw [((enforce_follows env p name subject object options).of_ok hd).1, if_neg hrefused]
  refine ⟨p.refusalFault name, houtcome, ?_⟩
  rw [refusalFault, hfault]
  exact ⟨rfl, rfl, rfl, rfl, Fault.refusalText_eq_iff⟩

/-- A newsroom in which nobody updates anything, and which explains refusals in some words. -/
def closedDesk (message : String) : Except Failure Policy :=
  Policy.ofRules newsroom [{ updateRule with allow := [] }]
    { checkModule := newsroomChecks, errorReason := .int 7, errorMessage := message } []

/-- A denied update and a request for a missing rule are refused alike: with the words of the
newsroom, or with words of nobody if it has none. -/
theorem closedDesk_tells :
    (∃ p f, closedDesk "ask the desk" = .ok p ∧
      (p.decide newsroom "article_update" (.text "writer") .null .null).outcome = .ok .denied ∧
      Decision.denied ≠ .allowed ∧
      (p.enforce newsroom "article_update" (.text "writer") .null .null).outcome =
        .error (.fault f) ∧
      f.message = .text "ask the desk" ∧ f.text? = some "ask the desk" ∧
      f.context = Value.ofFields [("rule", .text "article_update"), ("reason", .int 7)]) ∧
    ∃ p f, closedDesk "" = .ok p ∧
      (p.decide newsroom "article_delete" (.text "writer") .null .null).outcome =
        .ok .ruleNotFound ∧
      Decision.ruleNotFound ≠ .allowed ∧
      (p.enforce newsroom "article_delete" (.text "writer") .null .null).outcome =
        .error (.fault f) ∧
      f.message = .text "unauthorized" ∧ f.text? = some "unauthorized" ∧
      f.context = Value.ofFields [("rule", .text "article_delete"), ("reason", .int 7)] := by
  constructor
  · obtain ⟨p, hp⟩ : ∃ p, closedDesk "ask the desk" = .ok p := ⟨_, rfl⟩
    have hdenied :
        (p.decide newsroom "article_update" (.text "writer") .null .null).outcome =
          .ok .denied := by
      cases hp
      rfl
    obtain ⟨f, houtcome, _, hcontext, hmessage, htext, _⟩ :=
      enforce_tells_refusal hdenied (by decide)
    cases hp
    exact ⟨_, f, rfl, hdenied, by decide, houtcome, hmessage, htext, hcontext⟩
  · obtain ⟨p, hp⟩ : ∃ p, closedDesk "" = .ok p := ⟨_, rfl⟩
    have hmissing :
        (p.decide newsroom "article_delete" (.text "writer") .null .null).outcome =
          .ok .ruleNotFound := by
      cases hp
      rfl
    obtain ⟨f, houtcome, _, hcontext, hmessage, htext, _⟩ :=
      enforce_tells_refusal hmissing (by decide)
    cases hp
    exact ⟨_, f, rfl, hmissing, by decide, houtcome, hmessage, htext, hcontext⟩

end Policy
end AccessPolicy
