import Mathlib
import CrudLayer.Proofs.GuardedMethods

/-!
What becomes of a request. Refusals are made one after the other: the first condition that is true
ends the method, and if none is, the service is called. The guards of the resource, made so, refuse
what they should and let the rest through.
-/
namespace CrudLayer

open Token

namespace Resource

/-- The identities that come with a request, in the route and in the transfer object, and those that
something is stored under. -/
structure Request where
  path : Option Int64
  body : Option Int64
  stored : Int64 → Bool

inductive Fault
  /-- A name in it is not declared with the type that it is used at. -/
  | undeclared
  /-- The repository is asked about no identity. -/
  | nullIdentity
  deriving DecidableEq

/-- What a method does before it calls the service, or that it comes to call it. -/
inductive Verdict
  | refused (key : List Char)
  | proceeds
  deriving DecidableEq

/-- What is declared where a condition stands: parameters and fields, each with its type. The types
of transfer objects and of repositories are given by their names. -/
structure Scope where
  parameters : List (List Token × List Char)
  fields : List (List Token × List Char)
  transferObject : List Char
  repository : List Char

def identityType : List Token := [.word "final".toList, .word "Long".toList]

end Resource

namespace Condition

open Resource

/-- The condition asks parameters for identities, and a field for what is stored. -/
def InScope (s : Scope) : Condition → Prop
  | identified b | unidentified b => ([.word s.transferObject], b) ∈ s.parameters
  | mismatched p b =>
    (identityType, p) ∈ s.parameters ∧ ([.word s.transferObject], b) ∈ s.parameters
  | unknown r p => ([.word s.repository], r) ∈ s.fields ∧ (identityType, p) ∈ s.parameters

instance (s : Scope) : (c : Condition) → Decidable (c.InScope s)
  | identified b | unidentified b =>
    inferInstanceAs (Decidable (([.word s.transferObject], b) ∈ s.parameters))
  | mismatched p b =>
    inferInstanceAs (Decidable ((identityType, p) ∈ s.parameters ∧
      ([.word s.transferObject], b) ∈ s.parameters))
  | unknown r p =>
    inferInstanceAs (Decidable (([.word s.repository], r) ∈ s.fields ∧
      (identityType, p) ∈ s.parameters))

def value (r : Request) : Condition → Except Fault Bool
  | identified _ => .ok r.body.isSome
  | unidentified _ => .ok r.body.isNone
  | mismatched _ _ => .ok (r.path ≠ r.body)
  | unknown _ _ =>
    match r.path with
    | none => .error .nullIdentity
    | some id => .ok (!r.stored id)

def evaluate (s : Scope) (r : Request) (c : Condition) : Except Fault Bool :=
  if c.InScope s then c.value r else .error .undeclared

/-- A condition that is in scope can be evaluated for every request. -/
theorem evaluate_inScope {s : Scope} {c : Condition} (h : c.InScope s) (r : Request) :
    c.evaluate s r = c.value r := if_pos h

end Condition

namespace Resource

/-- The refusals, made in order. -/
def judge (s : Scope) (r : Request) : List Refusal → Except Fault Verdict
  | [] => .ok .proceeds
  | g :: gs =>
    match g.condition.evaluate s r with
    | .error fault => .error fault
    | .ok true => .ok (.refused g.key)
    | .ok false => judge s r gs

section Judging

variable {s : Scope} {r : Request}

/-- A condition that is true ends the method. -/
theorem judge_of_true (g : Refusal) (gs : List Refusal)
    (h : g.condition.evaluate s r = .ok true) : judge s r (g :: gs) = .ok (.refused g.key) := by
  rw [judge, h]

/-- A condition that is false leaves it to the refusals after it. -/
theorem judge_of_false (g : Refusal) (gs : List Refusal)
    (h : g.condition.evaluate s r = .ok false) : judge s r (g :: gs) = judge s r gs := by
  rw [judge, h]

end Judging

/-- What is to be created is refused exactly if it has an identity. -/
structure GuardsCreation (judged : Request → Except Fault Verdict) : Prop where
  answers : ∀ r, ∃ v, judged r = .ok v
  idexists : ∀ r, judged r = .ok (.refused (quoted "idexists".toList)) ↔ r.body ≠ none
  proceeds : ∀ r, judged r = .ok .proceeds ↔ r.body = none

/-- What is to be updated is refused for the first of three reasons: it has no identity, another one
than the route, or one that nothing is stored under. -/
structure GuardsUpdate (judged : Request → Except Fault Verdict) : Prop where
  /-- There is always a verdict, so the repository is never asked about no identity. -/
  answers : ∀ r, ∃ v, judged r = .ok v
  idnull : ∀ r, judged r = .ok (.refused (quoted "idnull".toList)) ↔ r.body = none
  idinvalid : ∀ r, judged r = .ok (.refused (quoted "idinvalid".toList)) ↔
    r.body ≠ none ∧ r.body ≠ r.path
  idnotfound : ∀ r, judged r = .ok (.refused (quoted "idnotfound".toList)) ↔
    ∃ id, r.body = some id ∧ r.path = some id ∧ r.stored id = false
  proceeds : ∀ r, judged r = .ok .proceeds ↔
    ∃ id, r.body = some id ∧ r.path = some id ∧ r.stored id = true

end Resource

namespace IdentityGuard

open Resource

def read (ctx : Context) : IdentityGuard → Condition
  | alreadyIdentified => .identified ctx.dtoVariable.toList
  | missingIdentity => .unidentified ctx.dtoVariable.toList
  | identityMismatch => .mismatched "id".toList ctx.dtoVariable.toList
  | identityNotFound => .unknown ctx.repositoryVariable.toList "id".toList

def told (g : IdentityGuard) : List Char := quoted g.key.toList

def refusal (ctx : Context) (g : IdentityGuard) : Refusal :=
  ⟨g.read ctx, quoted (g.message ctx).toList, g.told⟩

/-- No two guards tell the client the same. -/
theorem told_injective : Function.Injective told := by
  intro g g' heq
  cases g <;> cases g' <;> first | rfl | exact absurd heq (by decide)

variable {ctx : Context} {s : Scope}

section Creation

variable (h : ∀ g ∈ onCreate, (g.read ctx).InScope s) (r : Request)

include h

theorem judge_onCreate_idexists (hbody : r.body ≠ none) :
    judge s r (onCreate.map (refusal ctx)) = .ok (.refused alreadyIdentified.told) := by
  have hidentified := Condition.evaluate_inScope (h alreadyIdentified (by decide)) r
  rw [read, Condition.value, Option.isSome_iff_ne_none.mpr hbody] at hidentified
  exact judge_of_true _ _ hidentified

theorem judge_onCreate_proceeds (hbody : r.body = none) :
    judge s r (onCreate.map (refusal ctx)) = .ok .proceeds := by
  have hidentified := Condition.evaluate_inScope (h alreadyIdentified (by decide)) r
  rw [read, Condition.value, hbody, Option.isSome_none] at hidentified
  exact judge_of_false _ _ hidentified

omit r

/-- The guard of the create operation refuses what has an identity and nothing else. -/
theorem guardsCreation : GuardsCreation fun r => judge s r (onCreate.map (refusal ctx)) := by
  constructor
  case' idexists => change ∀ r, _ = Except.ok (Verdict.refused alreadyIdentified.told) ↔ _
  all_goals
    intro r
    by_cases hbody : r.body = none
    · simp [judge_onCreate_proceeds h r hbody, hbody]
    · simp [judge_onCreate_idexists h r hbody, hbody]

end Creation

section Update

variable (h : ∀ g ∈ onUpdate, (g.read ctx).InScope s) (r : Request)

include h

theorem judge_onUpdate_idnull (hbody : r.body = none) :
    judge s r (onUpdate.map (refusal ctx)) = .ok (.refused missingIdentity.told) := by
  have hmissing := Condition.evaluate_inScope (h missingIdentity (by decide)) r
  rw [read, Condition.value, hbody, Option.isNone_none] at hmissing
  exact judge_of_true _ _ hmissing

/-- An identity other than that of the route is refused as invalid. -/
theorem judge_onUpdate_idinvalid (id : Int64) (hbody : r.body = some id)
    (hpath : r.path ≠ some id) :
    judge s r (onUpdate.map (refusal ctx)) = .ok (.refused identityMismatch.told) := by
  have hmissing := Condition.evaluate_inScope (h missingIdentity (by decide)) r
  have hmismatch := Condition.evaluate_inScope (h identityMismatch (by decide)) r
  rw [read, Condition.value, hbody, Option.isNone_some] at hmissing
  rw [read, Condition.value, hbody, decide_eq_true hpath] at hmismatch
  exact (judge_of_false _ _ hmissing).trans (judge_of_true _ _ hmismatch)

/-- The repository is asked about the identity in the route when that is known to be the identity of
the transfer object. -/
theorem judge_onUpdate_same (id : Int64) (hbody : r.body = some id) (hpath : r.path = some id) :
    judge s r (onUpdate.map (refusal ctx)) =
      .ok (if r.stored id then .proceeds else .refused identityNotFound.told) := by
  have hmissing := Condition.evaluate_inScope (h missingIdentity (by decide)) r
  have hmismatch := Condition.evaluate_inScope (h identityMismatch (by decide)) r
  have hunknown : (identityNotFound.read ctx).evaluate s r = .ok (!r.stored id) := by
    rw [Condition.evaluate_inScope (h identityNotFound (by decide)), read, Condition.value, hpath]
  have hsame : decide (r.path ≠ r.body) = false := decide_eq_false (by rw [hpath, hbody]; simp)
  rw [read, Condition.value, hbody, Option.isNone_some] at hmissing
  rw [read, Condition.value, hsame] at hmismatch
  refine (judge_of_false _ _ hmissing).trans ((judge_of_false _ _ hmismatch).trans ?_)
  by_cases hstored : r.stored id = true
  · rw [if_pos hstored]
    exact judge_of_false _ _ (hunknown.trans (by rw [hstored, Bool.not_true]))
  · rw [if_neg hstored]
    exact judge_of_true _ _ (hunknown.trans (by rw [Bool.eq_false_iff.mpr hstored, Bool.not_false]))

omit r

/-- The guards of the update operations refuse for the first of their reasons. -/
theorem guardsUpdate : GuardsUpdate fun r => judge s r (onUpdate.map (refusal ctx)) := by
  constructor
  -- Keys are told apart by their guards, so that no text need be taken apart.
  case' idnull => change ∀ r, _ = Except.ok (Verdict.refused missingIdentity.told) ↔ _
  case' idinvalid => change ∀ r, _ = Except.ok (Verdict.refused identityMismatch.told) ↔ _
  case' idnotfound => change ∀ r, _ = Except.ok (Verdict.refused identityNotFound.told) ↔ _
  all_goals
    intro r
    cases hbody : r.body with
    | none => simp [judge_onUpdate_idnull h r hbody, told_injective.eq_iff]
    | some id =>
      by_cases hpath : r.path = some id
      · cases hstored : r.stored id <;>
          simp [judge_onUpdate_same h r id hbody hpath, hpath, hstored, told_injective.eq_iff]
      · simp [judge_onUpdate_idinvalid h r id hbody hpath, hpath, Ne.symm hpath,
          told_injective.eq_iff]

end Update

end IdentityGuard

end CrudLayer
