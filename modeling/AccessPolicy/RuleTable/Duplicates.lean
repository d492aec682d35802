import AccessPolicy.Rule

/-!
# Duplicates among rules

No two rules may share an object and action or a name, and no group may hold the
same check twice.

**Rules.**  `Duplicates.pairs` lists the pairs at fault: first those of an object and
action that occur on several rules, then those of rules whose name is shared, each
once and in the order of first occurrence.

**Checks.**  `Duplicates.inRule` reports the first group at fault, allow before deny,
with every repeated check in the order of second occurrences.
-/

namespace AccessPolicy
namespace Duplicates

section Lists

variable {α : Type} [DecidableEq α]

/-- The items of a list, each at its first occurrence only. -/
def distinct : List α → List α
  | [] => []
  | a :: rest => a :: (distinct rest).filter (· ≠ a)

end Lists

/-- The object and action of a rule. -/
def pair (r : Rule) : String × String :=
  (r.object, r.action)

/-- The pairs that several rules have. -/
def repeatedPairs (rules : List Rule) : List (String × String) :=
  (distinct (rules.map pair)).filter fun p => 1 < (rules.map pair).count p

/-- The pairs of rules whose name several rules have. -/
def clashingPairs (rules : List Rule) : List (String × String) :=
  distinct ((rules.filter fun r => 1 < (rules.map Rule.name).count r.name).map pair)

def pairs (rules : List Rule) : List (String × String) :=
  repeatedPairs rules ++ (clashingPairs rules).filter fun p => !(repeatedPairs rules).contains p

/-- Fails if rules share an object and action or a name. -/
def inRules (policy : String) (rules : List Rule) : Except Failure Unit :=
  match pairs rules with
  | [] => .ok ()
  | ps => .error 
      (Failure.ofCause (.duplicateRule (.text policy)
        (.list (ps.map fun p => .tuple [.text p.1, .text p.2]))))

/-- Whether a check agrees with one of a list. -/
def holds (checks : Group) (c : Check) : Bool :=
  checks.any fun d => d.agrees c

/-- The repeated checks among those that follow the ones seen. -/
def repeatedAfter (seen found : Group) : Group → Group
  | [] => found
  | c :: rest =>
      let found := if holds seen c && !holds found c then found ++ [c] else found
      repeatedAfter (seen ++ [c]) found rest

/-- The repeated checks of a group, in the order of second occurrences. -/
def repeatedChecks (g : Group) : Group :=
  repeatedAfter [] [] g

/-- The repeated checks of the first group that has some. -/
def firstRepeated (groups : List Group) : Option Group :=
  groups.findSome? fun g =>
    match repeatedChecks g with
    | [] => none
    | cs => some cs

/-- The field of a rule with a group at fault, and the repeated checks of that group. -/
def offence? (r : Rule) : Option (String × Group) :=
  match firstRepeated r.allow with
  | some cs => some ("allow", cs)
  | none => (firstRepeated r.deny).map fun cs => ("deny", cs)

/-- Fails if a group of a rule holds a check twice. -/
def inRule (policy : String) (r : Rule) : Except Failure Unit :=
  match offence? r with
  | none => .ok ()
  | some (field, cs) =>
      if cs.all fun c => c.toValue.isWritable then
        .error (Failure.ofCause
          (.duplicateCheck (.text policy) (.text r.object) (.text r.action) (.text field)
            (.list (cs.map fun c => .text c.display))))
      else .error .unwritable

end Duplicates
end AccessPolicy
