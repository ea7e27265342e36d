import Mathlib
import CrudLayer.Proofs.Tokens

namespace CrudLayer

open Listing

def quoted (text : List Char) : List Char := '"' :: (text ++ ['"'])

namespace Token

/-- The tokens of the pieces that quotes cut a line into. Every other piece is a quoted text. -/
def ofPieces (inside : Bool) : List (List Char) → List Token
  | [] => []
  | p :: ps =>
    (if inside then [.word (quoted p)] else (marked p).filter (· ≠ .mark ' ')) ++
      ofPieces (!inside) ps

def ofQuotedLine (line : List Char) : List Token := ofPieces false (line.splitOnP (· == '"'))

def ofQuotedLines (css : List (List Char)) : List Token :=
  annotated ((css.filter (!isComment ·)).flatMap ofQuotedLine)

def ofQuotedText (text : String) : List Token :=
  ofQuotedLines (declarationLines (text.toList.splitOn '\n'))

end Token

namespace Filling

theorem flatMap_spelling_quoted (σ : Filling) (text : List Char) :
    (quoted text).flatMap σ.spelling = quoted (text.flatMap σ.spelling) := by
  have hquote : σ.spelling '"' = ['"'] := σ.spelling_ascii '"' (by decide)
  simp [quoted, hquote]

namespace IsSafe

variable {σ : Filling} (h : σ.IsSafe)

include h in
/-- The pieces of a line are filled in one by one. -/
theorem ofPieces_map (inside : Bool) (ps : List (List Char)) (hps : ∀ p ∈ ps, 'π' ∉ p) :
    Token.ofPieces inside (ps.map (·.flatMap σ.spelling)) =
      (Token.ofPieces inside ps).map (Token.fill σ.spelling) := by
  induction ps generalizing inside with
  | nil => rfl
  | cons p ps ih =>
    have hrest := ih (!inside) fun q hq => hps q (by simp [hq])
    rw [List.map_cons, Token.ofPieces, Token.ofPieces, hrest, List.map_append]
    congr 1
    cases inside with
    | true => simp [Token.fill, σ.flatMap_spelling_quoted]
    | false => exact h.filter_marked_flatMap p (hps p (by simp))

include h in
/-- Quotes cut a line at the same places after names are filled in. -/
theorem ofQuotedLine_flatMap (cs : List Char)
    (hcs : ∀ p ∈ cs.splitOnP (· == '"'), 'π' ∉ p) :
    Token.ofQuotedLine (cs.flatMap σ.spelling) =
      (Token.ofQuotedLine cs).map (Token.fill σ.spelling) := by
  have hquotes := h.spares_char '"' (by decide) (by decide) (by decide) cs
  rw [Token.ofQuotedLine, splitOnP_flatMap cs hquotes, h.ofPieces_map false _ hcs]
  rfl

include h in
theorem ofQuotedLines_map (css : List (List Char))
    (hcss : ∀ cs ∈ css, isComment cs = true ∨ ∀ p ∈ cs.splitOnP (· == '"'), 'π' ∉ p) :
    Token.ofQuotedLines (css.map (·.flatMap σ.spelling)) =
      (Token.ofQuotedLines css).map (Token.fill σ.spelling) :=
  h.annotated_code_map Token.ofQuotedLine css fun cs hcs =>
    (hcss cs hcs).imp_right (h.ofQuotedLine_flatMap cs)

end IsSafe
end Filling

def quotedFormTokens (k : ArtifactKind) : List Token :=
  Token.ofQuotedLines (declarationLines (formCharacters k).val)

/-- Outside comments, no piece of a form has the package in it. -/
theorem no_package_in_pieces (k : ArtifactKind) :
    ∀ cs ∈ declarationLines (formCharacters k).val,
      isComment cs = true ∨ ∀ p ∈ cs.splitOnP (· == '"'), 'π' ∉ p := by
  have hall : (declarationLines (formCharacters k).val).all (fun cs =>
      isComment cs || (cs.splitOnP (· == '"')).all (fun p => decide ('π' ∉ p))) = true := by
    cases k <;> decide +kernel
  intro cs hcs
  simpa using List.all_eq_true.mp hall cs hcs

/-- The tokens of a generated file that does not hold fields, with its quoted texts. -/
theorem Token.ofQuotedText_content (t : Table) (c : Config) (ht : t.checkNames = .ok ())
    (hc : Config.checkPackage c.basePackage = .ok ()) (k : ArtifactKind)
    (hk : k ∉ Members.holders) :
    ofQuotedText (k.content (Context.ofTable t c)) = (quotedFormTokens k).map
      (fill (Filling.mk (Context.ofTable t c) (Field.form .text)).spelling) := by
  have h := Filling.isSafe_withoutField t c ht hc
  rw [ofQuotedText, characters_content_form t c ht hc k hk, h.declarationLines_map]
  exact h.ofQuotedLines_map _ (no_package_in_pieces k)

end CrudLayer
