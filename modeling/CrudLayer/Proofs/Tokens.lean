import Mathlib
import CrudLayer.Proofs.FileTexts

/-!
The code of a text as tokens: words, marks and annotations. Comments and what stands between quotes
are no code. The tokens of a generated file are those of its form with the names filled in, one by
one.
-/
namespace CrudLayer

open Listing

/-- A token of code. A note is an annotation with what it is given. -/
inductive Token
  | word (letters : List Char)
  | mark (c : Char)
  | note (name : List Char)
  deriving DecidableEq

namespace Token

def isMark (c : Char) : Bool := decide (c.toNat < 0x80) && !Naming.continuesIdentifier c

/-- Letters before tokens. They belong to the first token if that is a word. -/
def prepend (letters : List Char) : List Token → List Token
  | .word w :: ts => .word (letters ++ w) :: ts
  | ts => .word letters :: ts

def marked : List Char → List Token
  | [] => []
  | c :: cs => if isMark c then .mark c :: marked cs else prepend [c] (marked cs)

def ofLine (line : List Char) : List Token :=
  (marked (unquoted false line)).filter (· ≠ .mark ' ')

def nest (t : Token) (depth : Nat) : Nat :=
  if t = .mark '(' then depth + 1 else if t = .mark ')' then depth - 1 else depth

def afterClose (depth : Nat) : List Token → List Token
  | [] => []
  | t :: ts => if t = .mark ')' ∧ depth = 0 then ts else afterClose (t.nest depth) ts

def joined : List Token → List Token
  | .word name :: ts =>
    .note name :: if ts.head? = some (.mark '(') then afterClose 0 ts.tail else ts
  | ts => .mark '@' :: ts

def annotated : List Token → List Token
  | [] => []
  | t :: ts => if t = .mark '@' then joined (annotated ts) else t :: annotated ts

def ofLines (css : List (List Char)) : List Token :=
  annotated ((css.filter (!isComment ·)).flatMap ofLine)

/-- The tokens of the code of a text, without its package and its imports. -/
def ofText (text : String) : List Token := ofLines (declarationLines (text.toList.splitOn '\n'))

def fill (σ : Char → List Char) : Token → Token
  | word letters => word (letters.flatMap σ)
  | mark c => mark c
  | note name => note (name.flatMap σ)

section Fill

variable (σ : Char → List Char)

@[simp]
theorem fill_eq_mark_iff (t : Token) (c : Char) : t.fill σ = .mark c ↔ t = .mark c := by
  cases t <;> simp [fill]

/-- Filling in names opens no bracket and closes none. -/
@[simp]
theorem nest_fill (t : Token) (depth : Nat) : (t.fill σ).nest depth = t.nest depth := by
  simp [nest]

theorem prepend_fill (as bs : List Char) (h : as = bs.flatMap σ) (ts : List Token) :
    prepend as (ts.map (fill σ)) = (prepend bs ts).map (fill σ) := by
  subst h
  match ts with
  | [] => rfl
  | .word w :: ts => simp [prepend, fill]
  | .mark c :: ts => rfl
  | .note name :: ts => rfl

theorem afterClose_map (depth : Nat) (ts : List Token) :
    afterClose depth (ts.map (fill σ)) = (afterClose depth ts).map (fill σ) := by
  induction ts generalizing depth with
  | nil => rfl
  | cons t ts ih =>
    simp only [List.map_cons, afterClose, fill_eq_mark_iff, nest_fill, ih]
    split <;> rfl

theorem joined_map (ts : List Token) :
    joined (ts.map (fill σ)) = (joined ts).map (fill σ) := by
  have hgiven (rest : List Token) :
      (rest.map (fill σ)).head? = some (.mark '(') ↔ rest.head? = some (.mark '(') := by
    cases rest <;> simp
  match ts with
  | [] => rfl
  | .mark c :: ts => rfl
  | .note name :: ts => rfl
  | .word name :: ts =>
    have hname : (Token.word name).fill σ = .word (name.flatMap σ) := rfl
    simp only [List.map_cons, hname, joined, hgiven, ← List.map_tail, afterClose_map]
    rw [apply_ite (List.map (fill σ))]
    rfl

/-- Annotations are put together alike after names are filled in. -/
theorem annotated_map (ts : List Token) :
    annotated (ts.map (fill σ)) = (annotated ts).map (fill σ) := by
  induction ts with
  | nil => rfl
  | cons t ts ih =>
    simp only [List.map_cons, annotated, fill_eq_mark_iff, ih, joined_map]
    split <;> rfl

end Fill

theorem prepend_prepend (as bs : List Char) (ts : List Token) :
    prepend as (prepend bs ts) = prepend (as ++ bs) ts := by
  match ts with
  | [] => rfl
  | .word w :: ts => simp [prepend]
  | .mark c :: ts => rfl
  | .note name :: ts => rfl

/-- Letters before a text lengthen its first word or are one. -/
theorem marked_letters (as bs : List Char) (hne : as ≠ []) (has : ∀ a ∈ as, isMark a = false) :
    marked (as ++ bs) = prepend as (marked bs) := by
  induction as with
  | nil => exact absurd rfl hne
  | cons a as ih =>
    have ha : isMark a = false := has a (by simp)
    have hstep : marked (a :: as ++ bs) = prepend [a] (marked (as ++ bs)) := by
      simp [marked, ha]
    cases as with
    | nil => exact hstep
    | cons b rest =>
      rw [hstep, ih (List.cons_ne_nil _ _) fun c hc => has c (by simp [hc]), prepend_prepend]
      rfl

/-- A line falls into the same tokens after names are filled in. -/
theorem marked_flatMap {σ : Char → List Char} (hne : ∀ c, σ c ≠ []) (cs : List Char)
    (h : Spares σ isMark cs) : marked (cs.flatMap σ) = (marked cs).map (fill σ) := by
  induction cs with
  | nil => rfl
  | cons c cs ih =>
    obtain ⟨hkeep, hnone⟩ := h c (by simp)
    have hrest := ih h.tail
    rw [List.flatMap_cons]
    by_cases hc : isMark c = true
    · rw [hkeep hc, List.singleton_append, marked, marked, if_pos hc, if_pos hc, hrest]
      rfl
    · rw [Bool.not_eq_true] at hc
      calc marked (σ c ++ cs.flatMap σ)
          = prepend (σ c) (marked (cs.flatMap σ)) := marked_letters _ _ (hne c) (hnone hc)
        _ = prepend (σ c) ((marked cs).map (fill σ)) := by rw [hrest]
        _ = (prepend [c] (marked cs)).map (fill σ) := prepend_fill σ _ _ (by simp) _
        _ = (marked (c :: cs)).map (fill σ) := by simp [marked, hc]

end Token

namespace Filling.IsSafe

variable {σ : Filling} (h : σ.IsSafe)

include h in
theorem spares_isMark (cs : List Char) (hcs : 'π' ∉ cs) : Spares σ.spelling Token.isMark cs := by
  intro c hc
  -- A mark is a dot, or one that comes in with no name at all.
  have hmark := h.spares_mark (fun d => Token.isMark d && !d == '.') (by
    intro d hd
    simpa [Token.isMark, and_assoc] using hd) cs c hc
  obtain ⟨hdot, hundotted⟩ := h.spares_dot cs hcs c hc
  refine ⟨fun hm => ?_, fun hm d hd => ?_⟩
  · by_cases heq : c = '.'
    · exact hdot (by simpa using heq)
    · exact hmark.1 (by simp [hm, heq])
  · have hnot : (c == '.') = false := by
      rw [beq_eq_false_iff_ne]
      intro heq
      rw [heq] at hm
      exact absurd hm (by decide)
    have hd' := hmark.2 (by simp [hm]) d hd
    simpa [hundotted hnot d hd] using hd'

include h in
/-- Words and marks of code are filled in one by one, where the package does not stand. -/
theorem filter_marked_flatMap (cs : List Char) (hcs : 'π' ∉ cs) :
    (Token.marked (cs.flatMap σ.spelling)).filter (· ≠ .mark ' ') =
      ((Token.marked cs).filter (· ≠ .mark ' ')).map (Token.fill σ.spelling) := by
  rw [Token.marked_flatMap h.spelling_ne_nil _ (h.spares_isMark _ hcs), List.filter_map]
  congr 1
  apply List.filter_congr
  intro t _
  simp

include h in
theorem ofLine_flatMap (cs : List Char) (hcs : 'π' ∉ unquoted false cs) :
    Token.ofLine (cs.flatMap σ.spelling) = (Token.ofLine cs).map (Token.fill σ.spelling) := by
  rw [Token.ofLine, h.unquoted_flatMap, h.filter_marked_flatMap _ hcs]
  rfl

include h in
/-- If each line of code is filled in token by token, so is the code in lines. -/
theorem annotated_code_map (read : List Char → List Token) (css : List (List Char))
    (hread : ∀ cs ∈ css, isComment cs = true ∨
      read (cs.flatMap σ.spelling) = (read cs).map (Token.fill σ.spelling)) :
    Token.annotated (((css.map (·.flatMap σ.spelling)).filter (!isComment ·)).flatMap read) =
      (Token.annotated ((css.filter (!isComment ·)).flatMap read)).map
        (Token.fill σ.spelling) := by
  -- The same lines are left out as comments.
  have hcode : (css.map (·.flatMap σ.spelling)).filter (!isComment ·) =
      (css.filter (!isComment ·)).map (·.flatMap σ.spelling) := by
    rw [List.filter_map]
    congr 1
    apply List.filter_congr
    intro cs _
    simp [h.isComment_flatMap]
  have htokens : ∀ cs ∈ css.filter (!isComment ·),
      read (cs.flatMap σ.spelling) = (read cs).map (Token.fill σ.spelling) := by
    intro cs hcs
    obtain ⟨hmem, hcomment⟩ := List.mem_filter.mp hcs
    rcases hread cs hmem with hc | hfilled
    · rw [hc] at hcomment
      exact absurd hcomment (by decide)
    · exact hfilled
  rw [hcode, List.flatMap_map, List.flatMap_congr htokens, ← List.map_flatMap,
    Token.annotated_map]

include h in
/-- The tokens of lines that are filled in, if the package stands in no code of theirs. -/
theorem ofLines_map (css : List (List Char))
    (hcss : ∀ cs ∈ css, isComment cs = true ∨ 'π' ∉ unquoted false cs) :
    Token.ofLines (css.map (·.flatMap σ.spelling)) =
      (Token.ofLines css).map (Token.fill σ.spelling) :=
  h.annotated_code_map Token.ofLine css fun cs hcs => (hcss cs hcs).imp_right (h.ofLine_flatMap cs)

end Filling.IsSafe

def formTokens (k : ArtifactKind) : List Token :=
  Token.ofLines (declarationLines (formCharacters k).val)

/-- Outside comments and quotes, no line of a form has the package in it. -/
theorem no_package_in_form (k : ArtifactKind) :
    ∀ cs ∈ declarationLines (formCharacters k).val,
      isComment cs = true ∨ 'π' ∉ unquoted false cs := by
  have hall : (declarationLines (formCharacters k).val).all
      (fun cs => isComment cs || decide ('π' ∉ unquoted false cs)) = true := by
    cases k <;> decide
  intro cs hcs
  simpa using List.all_eq_true.mp hall cs hcs

/-- The tokens of a generated file that does not hold fields. -/
theorem Token.ofText_content (t : Table) (c : Config) (ht : t.checkNames = .ok ())
    (hc : Config.checkPackage c.basePackage = .ok ()) (k : ArtifactKind)
    (hk : k ∉ Members.holders) :
    ofText (k.content (Context.ofTable t c)) = (formTokens k).map
      (fill (Filling.mk (Context.ofTable t c) (Field.form .text)).spelling) := by
  have h := Filling.isSafe_withoutField t c ht hc
  rw [ofText, characters_content_form t c ht hc k hk, h.declarationLines_map]
  exact h.ofLines_map _ (no_package_in_form k)

end CrudLayer
