import Mathlib
import CrudLayer.Proofs.QuotedTexts
import CrudLayer.Proofs.ServiceMethods

namespace CrudLayer

/-- What ends a phrase: a semicolon, or a bracket that opens or closes a block. -/
inductive Stop
  | semicolon
  | opening
  | closing
  deriving DecidableEq

structure Phrase where
  tokens : List Token
  stop : Stop
  deriving DecidableEq

inductive Condition
  /-- The transfer object has an identity. -/
  | identified (body : List Char)
  /-- The transfer object has no identity. -/
  | unidentified (body : List Char)
  /-- The identity differs from that of the transfer object. -/
  | mismatched (path body : List Char)
  /-- The repository has nothing under the identity. -/
  | unknown (repository path : List Char)
  deriving DecidableEq

structure Refusal where
  condition : Condition
  message : List Char
  key : List Char
  deriving DecidableEq

/-- A method that makes these refusals in order and then this call. -/
structure GuardedMethod where
  head : MethodHead
  /-- The notes on each parameter, which say what of a request it is given. -/
  bindings : List (List (List Char))
  refusals : List Refusal
  call : MethodUse
  deriving DecidableEq

namespace Token

def stop? (t : Token) : Option Stop :=
  if t = .mark ';' then some .semicolon
  else if t = .mark '\x7b' then some .opening
  else if t = .mark '\x7d' then some .closing
  else none

def noteName? : Token → Option (List Char)
  | note name => some name
  | _ => none

def bindings (ts : List Token) : List (List (List Char)) :=
  (arguments (ts.dropWhile (· ≠ .mark '(')).tail).map (·.filterMap noteName?)

/-- The phrases that tokens fall into. What follows the last stop is in none. -/
def phrases : List Token → List Phrase
  | [] => []
  | t :: ts =>
    match stop? t with
    | some s => ⟨[], s⟩ :: phrases ts
    | none => (phrases ts).modifyHead fun p => ⟨t :: p.tokens, p.stop⟩

end Token

open Token

def Condition.tokens : Condition → List Token
  | identified b => [.word b, .mark '.', .word "getId".toList, .mark '(', .mark ')', .mark '!',
      .mark '=', .word "null".toList]
  | unidentified b => [.word b, .mark '.', .word "getId".toList, .mark '(', .mark ')', .mark '=',
      .mark '=', .word "null".toList]
  | mismatched p b => [.mark '!', .word "Objects".toList, .mark '.', .word "equals".toList,
      .mark '(', .word p, .mark ',', .word b, .mark '.', .word "getId".toList, .mark '(', .mark ')',
      .mark ')']
  | unknown r p => [.mark '!', .word r, .mark '.', .word "existsById".toList, .mark '(', .word p,
      .mark ')']

/-- The conditions that tokens may be, by where the names in them stand. -/
def conditionsIn : List Token → List Condition
  | .word b :: _ => [.identified b, .unidentified b]
  | [_, .word r, _, _, _, .word p, _] => [.unknown r p]
  | [_, _, _, _, _, .word p, _, .word b, _, _, _, _, _] => [.mismatched p b]
  | _ => []

def condition? (ts : List Token) : Option Condition := (conditionsIn ts).find? (·.tokens = ts)

def Refusal.phrases (r : Refusal) : List Phrase := [
  ⟨.word "if".toList :: .mark '(' :: (r.condition.tokens ++ [.mark ')']), .opening⟩,
  ⟨[.word "throw".toList, .word "new".toList, .word "BadRequestAlertException".toList, .mark '(',
    .word r.message, .mark ',', .word "ENTITY_NAME".toList, .mark ',', .word r.key, .mark ')'],
    .semicolon⟩,
  ⟨[], .closing⟩]

def refusalIn? : List Phrase → Option Refusal
  | [⟨_ :: _ :: ts, _⟩, ⟨[_, _, _, _, .word message, _, _, _, .word key, _], _⟩, _] =>
    (condition? ts.dropLast).map (⟨·, message, key⟩)
  | _ => none

def refusal? (ps : List Phrase) : Option Refusal := (refusalIn? ps).filter (·.phrases = ps)

def call? (ts : List Token) : Option MethodUse := use? (ts.dropWhile (· ≠ .mark '=')).tail

/-- Refusals one after the other, and the call in the first statement after them. -/
def refusing? : List Phrase → Option (List Refusal × MethodUse)
  | ⟨ts, .semicolon⟩ :: _ => (call? ts).map ([], ·)
  | p :: q :: r :: ps =>
    (refusal? [p, q, r]).bind fun g => (refusing? ps).map fun b => (g :: b.1, b.2)
  | _ => none

namespace Phrase

def isLog (p : Phrase) : Bool :=
  decide (p.stop = .semicolon ∧
    (use? p.tokens).map (fun u => (u.receiver, u.method)) = some ("LOG".toList, "debug".toList))

/-- A field that a class is given when it is made, with its type. -/
def heldField? (p : Phrase) : Option (List Token × List Char) :=
  match p with
  | ⟨[.word visibility, .word modifier, .word type, .word name], .semicolon⟩ =>
    if [visibility, modifier] = ["private".toList, "final".toList] then some ([.word type], name)
    else none
  | _ => none

end Phrase

/-- The head of a method, one log statement, refusals and a call. -/
def guardedMethod? : List Phrase → Option GuardedMethod
  | p :: log :: ps =>
    if p.stop = .opening ∧ log.isLog = true then
      (publicHead? p.tokens).bind fun m => (refusing? ps).map fun b =>
        ⟨m, bindings p.tokens, b.1, b.2⟩
    else none
  | _ => none

def noted? (note : List Char) : List Phrase → Option (List Phrase)
  | p :: ps => if p.tokens.head? = some (.note note) then some (p :: ps) else none
  | [] => none

/-- The methods with a note, if they all are public and refuse requests before they make a call. -/
def notedMethods (note : List Char) (ts : List Token) : Option (List GuardedMethod) :=
  ((phrases ts).tails.filterMap (noted? note)).mapM guardedMethod?

def heldFields (ts : List Token) : List (List Token × List Char) :=
  (phrases ts).filterMap Phrase.heldField?

/-- A condition is read from exactly the tokens that it is written in. -/
theorem condition?_eq_some_iff (ts : List Token) (c : Condition) :
    condition? ts = some c ↔ ts = c.tokens := by
  constructor
  · intro h
    have htokens := List.find?_some h
    exact (of_decide_eq_true htokens).symm
  · rintro rfl
    cases c <;> simp [condition?, conditionsIn, Condition.tokens]

/-- A refusal is read from exactly the phrases that it is written in. -/
theorem refusal?_eq_some_iff (ps : List Phrase) (r : Refusal) :
    refusal? ps = some r ↔ ps = r.phrases := by
  constructor
  · intro h
    have hphrases := (Option.filter_eq_some_iff.mp h).2
    exact (of_decide_eq_true hphrases).symm
  · rintro rfl
    have hcondition := (condition?_eq_some_iff r.condition.tokens r.condition).mpr rfl
    simp [refusal?, refusalIn?, Refusal.phrases, hcondition]

section Fill

def Phrase.fill (σ : Char → List Char) (p : Phrase) : Phrase :=
  ⟨p.tokens.map (Token.fill σ), p.stop⟩

def fillTyped (σ : Char → List Char) (d : List Token × List Char) : List Token × List Char :=
  (d.1.map (Token.fill σ), d.2.flatMap σ)

def Condition.fill (σ : Char → List Char) : Condition → Condition
  | identified b => identified (b.flatMap σ)
  | unidentified b => unidentified (b.flatMap σ)
  | mismatched p b => mismatched (p.flatMap σ) (b.flatMap σ)
  | unknown r p => unknown (r.flatMap σ) (p.flatMap σ)

def Refusal.fill (σ : Char → List Char) (r : Refusal) : Refusal :=
  ⟨r.condition.fill σ, r.message.flatMap σ, r.key.flatMap σ⟩

def GuardedMethod.fill (σ : Char → List Char) (m : GuardedMethod) : GuardedMethod :=
  ⟨m.head.fill σ, m.bindings.map (List.map (·.flatMap σ)), m.refusals.map (Refusal.fill σ),
    m.call.fill σ⟩

/-- Filling in names ends no phrase. -/
theorem phrases_map (σ : Char → List Char) (ts : List Token) :
    phrases (ts.map (Token.fill σ)) = (phrases ts).map (Phrase.fill σ) := by
  induction ts with
  | nil => rfl
  | cons t ts ih =>
    have hstop : stop? (t.fill σ) = stop? t := by simp [stop?]
    rw [List.map_cons, phrases, phrases, hstop, ih]
    cases stop? t with
    | some s => rfl
    | none => cases phrases ts <;> rfl

theorem bindings_map (σ : Char → List Char) (ts : List Token) :
    bindings (ts.map (Token.fill σ)) = (bindings ts).map (List.map (·.flatMap σ)) := by
  have hname (t : Token) : noteName? (t.fill σ) = (noteName? t).map (·.flatMap σ) := by
    cases t <;> rfl
  rw [bindings, dropWhile_mark_map, ← List.map_tail, arguments_map, List.map_map, bindings,
    List.map_map]
  apply List.map_congr_left
  intro a _
  simp only [Function.comp_apply, List.filterMap_map, List.map_filterMap]
  exact List.filterMap_congr fun t _ => hname t

theorem call?_map (σ : Char → List Char) (ts : List Token) :
    call? (ts.map (Token.fill σ)) = (call? ts).map (MethodUse.fill σ) := by
  rw [call?, dropWhile_mark_map, ← List.map_tail, use?_map]
  rfl

variable (σ : Filling)

theorem Condition.tokens_fill (c : Condition) :
    (c.fill σ.spelling).tokens = c.tokens.map (Token.fill σ.spelling) := by
  have hget := σ.flatMap_spelling_ascii "getId".toList (by decide)
  have hnull := σ.flatMap_spelling_ascii "null".toList (by decide)
  have hobjects := σ.flatMap_spelling_ascii "Objects".toList (by decide)
  have hequals := σ.flatMap_spelling_ascii "equals".toList (by decide)
  have hexists := σ.flatMap_spelling_ascii "existsById".toList (by decide)
  cases c <;> simp only [fill, tokens, List.map_cons, List.map_nil, Token.fill, hget, hnull,
    hobjects, hequals, hexists]

theorem Refusal.phrases_fill (r : Refusal) :
    (r.fill σ.spelling).phrases = r.phrases.map (Phrase.fill σ.spelling) := by
  have hif := σ.flatMap_spelling_ascii "if".toList (by decide)
  have hthrow := σ.flatMap_spelling_ascii "throw".toList (by decide)
  have hnew := σ.flatMap_spelling_ascii "new".toList (by decide)
  have hexception := σ.flatMap_spelling_ascii "BadRequestAlertException".toList (by decide)
  have hentity := σ.flatMap_spelling_ascii "ENTITY_NAME".toList (by decide)
  simp only [fill, phrases, Condition.tokens_fill, List.map_cons, List.map_nil, Phrase.fill,
    List.map_append, Token.fill, hif, hthrow, hnew, hexception, hentity]

theorem refusal?_map (ps : List Phrase) (r : Refusal) (h : refusal? ps = some r) :
    refusal? (ps.map (Phrase.fill σ.spelling)) = some (r.fill σ.spelling) := by
  rw [refusal?_eq_some_iff] at h ⊢
  rw [h, Refusal.phrases_fill]

/-- Refusals and the call after them are read alike after names are filled in. -/
theorem refusing?_map (ps : List Phrase) (b : List Refusal × MethodUse)
    (h : refusing? ps = some b) :
    refusing? (ps.map (Phrase.fill σ.spelling)) =
      some (b.1.map (Refusal.fill σ.spelling), b.2.fill σ.spelling) := by
  fun_induction refusing? ps generalizing b with
  | case1 ts ps =>
    obtain ⟨u, hu, rfl⟩ := Option.map_eq_some_iff.mp h
    simp [refusing?, Phrase.fill, call?_map, hu]
  | case2 p q r ps hstatement ih =>
    obtain ⟨g, hg, hrest⟩ := Option.bind_eq_some_iff.mp h
    obtain ⟨b', hb', rfl⟩ := Option.map_eq_some_iff.mp hrest
    have hfilled := refusal?_map σ _ _ hg
    -- What is filled in ends as before, so it is no statement either.
    have hblock (ts : List Token) : p.fill σ.spelling ≠ ⟨ts, .semicolon⟩ := by
      intro heq
      exact hstatement p.tokens (congrArg (Phrase.mk p.tokens) (congrArg Phrase.stop heq))
    simp only [List.map_cons, List.map_nil] at hfilled
    simp only [List.map_cons]
    rw [refusing?]
    · simp [hfilled, ih b' hb']
    · exact hblock
  | case3 => exact absurd h (by simp)

theorem Phrase.isLog_fill (p : Phrase) (h : p.isLog = true) : (p.fill σ.spelling).isLog = true := by
  obtain ⟨hstop, huse⟩ := of_decide_eq_true h
  obtain ⟨u, hu, hnames⟩ := Option.map_eq_some_iff.mp huse
  obtain ⟨hreceiver, hmethod⟩ := Prod.mk.inj hnames
  have hlog := σ.flatMap_spelling_ascii "LOG".toList (by decide)
  have hdebug := σ.flatMap_spelling_ascii "debug".toList (by decide)
  apply decide_eq_true
  refine ⟨hstop, ?_⟩
  rw [Phrase.fill, use?_map, hu, Option.map_some, Option.map_some, MethodUse.fill, hreceiver,
    hmethod, hlog, hdebug]

/-- A method that is read from a form is read from each file of it. -/
theorem guardedMethod?_map (ps : List Phrase) (m : GuardedMethod) (h : guardedMethod? ps = some m) :
    guardedMethod? (ps.map (Phrase.fill σ.spelling)) = some (m.fill σ.spelling) := by
  unfold guardedMethod? at h
  split at h
  · rename_i p log ps
    obtain ⟨⟨hstop, hlog⟩, hparts⟩ := Option.ite_none_right_eq_some.mp h
    obtain ⟨head, hhead, hrest⟩ := Option.bind_eq_some_iff.mp hparts
    obtain ⟨b, hb, rfl⟩ := Option.map_eq_some_iff.mp hrest
    have hfilled : (p.fill σ.spelling).stop = .opening ∧ (log.fill σ.spelling).isLog = true :=
      ⟨hstop, log.isLog_fill σ hlog⟩
    have hheadFilled : publicHead? (p.fill σ.spelling).tokens = some (head.fill σ.spelling) :=
      publicHead?_map σ p.tokens head hhead
    have hbindings : bindings (p.fill σ.spelling).tokens = _ := bindings_map σ.spelling p.tokens
    simp only [List.map_cons, guardedMethod?, if_pos hfilled, hheadFilled, hbindings,
      Option.bind_some, refusing?_map σ ps b hb, Option.map_some]
    rfl
  · exact absurd h (by simp)

/-- No name is filled in for a note, so the same methods have it. -/
theorem filterMap_noted?_map (note : List Char) (ps : List Phrase)
    (hfixed : (ps.all fun p => p.tokens.all isFixedNote) = true) :
    (ps.map (Phrase.fill σ.spelling)).tails.filterMap (noted? note) =
      (ps.tails.filterMap (noted? note)).map (List.map (Phrase.fill σ.spelling)) := by
  rw [List.map_tails, List.filterMap_map, List.map_filterMap]
  apply List.filterMap_congr
  intro rest hrest
  have hsuffix : rest <:+ ps := (List.mem_tails _ _).mp hrest
  match rest, hsuffix with
  | [], _ => rfl
  | p :: rest, hs =>
    have hnotes := List.all_eq_true.mp hfixed p (hs.subset (by simp))
    -- A note is the same after names are filled in, and nothing else becomes one.
    have hhead : (p.fill σ.spelling).tokens.head? = some (.note note) ↔
        p.tokens.head? = some (.note note) := by
      cases htokens : p.tokens with
      | nil => simp [Phrase.fill, htokens]
      | cons t ts =>
        have ht := List.all_eq_true.mp hnotes t (by simp [htokens])
        simp [Phrase.fill, htokens, fill_eq_note_iff σ t ht]
    simp only [Function.comp_apply, List.map_cons, noted?, hhead]
    split <;> rfl

theorem notedMethods_map (note : List Char) (ts : List Token) (ms : List GuardedMethod)
    (hfixed : ((phrases ts).all fun p => p.tokens.all isFixedNote) = true)
    (h : notedMethods note ts = some ms) :
    notedMethods note (ts.map (Token.fill σ.spelling)) =
      some (ms.map (GuardedMethod.fill σ.spelling)) := by
  rw [notedMethods, phrases_map, filterMap_noted?_map σ note _ hfixed]
  exact mapM_map_of_comm (guardedMethod?_map σ) _ _ h

/-- If the phrase may be a field, its first two words are fixed ones. -/
def Phrase.isTold (p : Phrase) : Bool :=
  match p with
  | ⟨[.word visibility, .word modifier, .word _, .word _], .semicolon⟩ =>
    decide (IsFixed visibility ∧ IsFixed modifier)
  | _ => true

theorem Phrase.heldField?_fill (p : Phrase) (h : p.isTold = true) :
    (p.fill σ.spelling).heldField? = p.heldField?.map (fillTyped σ.spelling) := by
  fun_cases isTold p with
  | case1 visibility modifier type name =>
    obtain ⟨hvisibility, hmodifier⟩ := of_decide_eq_true h
    have hfirst := σ.flatMap_spelling_ascii visibility hvisibility
    have hsecond := σ.flatMap_spelling_ascii modifier hmodifier
    simp only [fill, List.map_cons, List.map_nil, Token.fill, hfirst, hsecond, heldField?]
    split <;> rfl
  | case2 p hother =>
    -- Only a phrase of four words is filled in to be one.
    have hnone : p.heldField? = none := by
      unfold heldField?
      split
      · rename_i visibility modifier type name
        exact absurd rfl (hother visibility modifier type name)
      · rfl
    rw [hnone, Option.map_none]
    unfold heldField?
    split
    · rename_i visibility modifier type name heq
      obtain ⟨tokens, stop⟩ := p
      obtain ⟨htokens, rfl⟩ := Phrase.mk.inj heq
      simp only [List.map_eq_cons_iff, List.map_eq_nil_iff, fill_eq_word_iff] at htokens
      obtain ⟨_, _, rfl, ⟨v, rfl, -⟩, _, _, rfl, ⟨m, rfl, -⟩, _, _, rfl, ⟨t, rfl, -⟩, _, _, rfl,
        ⟨n, rfl, -⟩, rfl⟩ := htokens
      exact absurd rfl (hother v m t n)
    · rfl

theorem heldFields_map (ts : List Token) (h : (phrases ts).all Phrase.isTold = true) :
    heldFields (ts.map (Token.fill σ.spelling)) = (heldFields ts).map (fillTyped σ.spelling) := by
  rw [heldFields, phrases_map, List.filterMap_map, heldFields, List.map_filterMap]
  exact List.filterMap_congr fun p hp => p.heldField?_fill σ (List.all_eq_true.mp h p hp)

end Fill
end CrudLayer
