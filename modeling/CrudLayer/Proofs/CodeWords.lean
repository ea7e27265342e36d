import Mathlib
import CrudLayer.Proofs.Characters
import CrudLayer.Proofs.Forms
import CrudLayer.Proofs.Replacing

namespace CrudLayer

namespace Listing

/-- A line without what stands between quotes. `inside` says that a quote has been opened. -/
def unquoted (inside : Bool) : List Char → List Char
  | [] => []
  | c :: rest =>
    if c = '"' then c :: unquoted (!inside) rest
    else if inside then unquoted inside rest
    else c :: unquoted inside rest

def isComment (line : List Char) : Bool :=
  match line.dropWhile (· == ' ') with
  | [] => false
  | c :: _ => c == '/' || c == '*'

def partsWords (c : Char) : Bool :=
  decide (c.toNat < 0x80) && !Naming.continuesIdentifier c && !c == '.'

def pieces (line : List Char) : List (List Char) := (unquoted false line).splitOnP partsWords

/-- The words of a line of code. Of what has dots in it only the first word counts, since the others
are qualified by it. -/
def lineWords (line : List Char) : List (List Char) :=
  if isComment line then []
  else ((pieces line).map (·.takeWhile (· != '.'))).filter (· ≠ [])

def declarationLines (ls : List (List Char)) : List (List Char) :=
  ls.dropWhile (· ≠ ['/', '*', '*'])

/-- The words of the code of a text, without its package and its imports. -/
def codeWords (text : String) : List String :=
  ((declarationLines (text.toList.splitOn '\n')).flatMap lineWords).map String.ofList

/-- A text without quotes is left out if it is inside of one, and is kept if it is not. -/
theorem unquoted_append (inside : Bool) (as bs : List Char) (has : '"' ∉ as) :
    unquoted inside (as ++ bs) = (if inside then [] else as) ++ unquoted inside bs := by
  induction as with
  | nil => simp
  | cons a as ih =>
    simp only [List.mem_cons, not_or] at has
    cases inside <;> simpa [unquoted, Ne.symm has.1] using ih has.2

theorem lineWords_blank (cs : List Char) : lineWords (' ' :: cs) = lineWords cs := by
  have hcomment : isComment (' ' :: cs) = isComment cs := rfl
  have hunquoted : unquoted false (' ' :: cs) = ' ' :: unquoted false cs := rfl
  have hpieces : pieces (' ' :: cs) = [] :: pieces cs := by
    rw [pieces, hunquoted, List.splitOnP_cons_eq_if_modifyHead]
    rfl
  rw [lineWords, lineWords, hcomment, hpieces]
  rfl

/-- How far in a line stands makes no difference to its words. -/
theorem lineWords_steppedIn (cs : List Char) : lineWords (steppedIn cs) = lineWords cs := by
  unfold steppedIn
  split
  · rfl
  · rw [lineWords_blank, lineWords_blank, lineWords_blank, lineWords_blank]

/-- The package and the imports are left out, and nothing else. -/
theorem declarationLines_file (package : String) (imports : List String)
    (description rest : Listing) :
    declarationLines (characters (file package imports (documentation description ++ rest))) =
      characters (documentation description ++ rest) := by
  have hpackage : ("package " : String).toList = ['p', 'a', 'c', 'k', 'a', 'g', 'e', ' '] :=
    toList_fixed rfl
  have himport : ("import " : String).toList = ['i', 'm', 'p', 'o', 'r', 't', ' '] :=
    toList_fixed rfl
  have hline : ∀ i : String,
      decide ("import ".toList ++ i.toList ++ [';'] ≠ ['/', '*', '*']) = true := by
    intro i
    simp [himport]
  have himports : ∀ l ∈ imports.map (fun i => "import ".toList ++ i.toList ++ [';']),
      decide (l ≠ ['/', '*', '*']) = true := by
    intro l hl
    obtain ⟨i, -, rfl⟩ := List.mem_map.mp hl
    exact hline i
  rw [declarationLines, characters_file, List.append_assoc, List.append_assoc,
    List.dropWhile_append_of_pos (by simp [hpackage]), List.dropWhile_append_of_pos himports,
    characters_append, characters_documentation]
  simp

def wordsIn (ls : Listing) : List (List Char) := (characters ls).flatMap lineWords

theorem wordsIn_nil : wordsIn [] = [] := rfl

theorem wordsIn_cons (l : String) (ls : Listing) :
    wordsIn (l :: ls) = lineWords l.toList ++ wordsIn ls := rfl

theorem wordsIn_append (as bs : Listing) : wordsIn (as ++ bs) = wordsIn as ++ wordsIn bs := by
  rw [wordsIn, characters_append, List.flatMap_append]
  rfl

theorem wordsIn_flatten (parts : List Listing) : wordsIn parts.flatten = parts.flatMap wordsIn := by
  induction parts with
  | nil => rfl
  | cons p parts ih => rw [List.flatten_cons, wordsIn_append, ih, List.flatMap_cons]

theorem wordsIn_apart (parts : List Listing) : wordsIn (apart parts) = parts.flatMap wordsIn := by
  induction parts with
  | nil => rfl
  | cons p parts ih =>
    cases parts with
    | nil => simp [apart]
    | cons next parts =>
      have hblank : wordsIn [""] = [] := rfl
      rw [apart_cons_cons, wordsIn_append, wordsIn_append, ih, hblank, List.append_nil]
      rfl

theorem wordsIn_braced (head : String) (body : Listing) (tail : String) :
    wordsIn (braced head body tail) =
      lineWords (head.toList ++ [' ', '\x7b']) ++ wordsIn body ++
        lineWords ('\x7d' :: tail.toList) := by
  have hbody : ((characters body).map steppedIn).flatMap lineWords = wordsIn body := by
    rw [List.flatMap_map, wordsIn]
    exact List.flatMap_congr fun cs _ => lineWords_steppedIn cs
  rw [wordsIn, characters_braced, List.flatMap_append, List.flatMap_append, hbody]
  simp

/-- A comment has no words of code. -/
theorem wordsIn_documentation (ls : Listing) : wordsIn (documentation ls) = [] := by
  have hstar : ∀ cs, lineWords (starred cs) = [] := by
    intro cs
    unfold starred
    split <;> rfl
  rw [wordsIn, characters_documentation, List.flatMap_append, List.flatMap_append,
    List.flatMap_map, List.flatMap_eq_nil_iff.mpr fun cs _ => hstar cs]
  rfl

def fileWords (ls : Listing) : List (List Char) :=
  (declarationLines (characters ls)).flatMap lineWords

/-- The words of a file are those below the comment of its type. -/
theorem fileWords_file (package : String) (imports : List String) (description rest : Listing) :
    fileWords (file package imports (documentation description ++ rest)) = wordsIn rest := by
  rw [fileWords, declarationLines_file]
  exact (wordsIn_append _ _).trans (by rw [wordsIn_documentation, List.nil_append])

theorem fileWords_entity (ctx : Context) :
    fileWords (Entity.listing ctx) =
      wordsIn ["@Entity", "@Table(name = \"" ++ ctx.tableName ++ "\")"] ++
        lineWords (("public class " ++ ctx.typeName .entity ++ " implements Serializable").toList ++
          [' ', '\x7b']) ++
        [[""], Members.serialVersion, Entity.identity].flatMap wordsIn ++
        ctx.fields.flatMap (fun f => wordsIn (Entity.field f)) ++
        [Members.getter "Long" identityColumn "Id",
          Members.setter "Long" identityColumn "Id"].flatMap wordsIn ++
        ctx.fields.flatMap (fun f => wordsIn (Members.accessors f).flatten) ++
        lineWords ['\x7d'] := by
  rw [Entity.listing, List.append_assoc, fileWords_file, wordsIn_append, wordsIn_braced,
    wordsIn_append, wordsIn_apart, Members.allAccessors]
  simp only [List.flatMap_append, List.flatMap_map, List.flatMap_assoc, wordsIn_flatten,
    List.flatMap_cons, List.flatMap_nil, List.append_nil, List.append_assoc]
  rfl

theorem fileWords_transferObject (ctx : Context) :
    fileWords (TransferObject.listing ctx) =
      lineWords (("public class " ++ ctx.typeName .transferObject ++
          " implements Serializable").toList ++ [' ', '\x7b']) ++
        [[""], Members.serialVersion, [Members.identity]].flatMap wordsIn ++
        ctx.fields.flatMap (fun f => wordsIn [Members.declaration f.type.javaType f.name]) ++
        [Members.getter "Long" identityColumn "Id",
          Members.setter "Long" identityColumn "Id"].flatMap wordsIn ++
        ctx.fields.flatMap (fun f => wordsIn (Members.accessors f).flatten) ++
        lineWords ['\x7d'] := by
  -- The declarations are listed in one block, and their words come one by one.
  have hfields : wordsIn (ctx.fields.map fun f => Members.declaration f.type.javaType f.name) =
      ctx.fields.flatMap fun f => wordsIn [Members.declaration f.type.javaType f.name] := by
    induction ctx.fields with
    | nil => rfl
    | cons f fs ih =>
      rw [List.map_cons, List.flatMap_cons, wordsIn_cons, ih]
      simp [wordsIn_cons, wordsIn_nil]
  rw [TransferObject.listing, fileWords_file, wordsIn_braced, wordsIn_append, wordsIn_apart,
    Members.allAccessors]
  simp only [List.flatMap_append, List.flatMap_assoc, wordsIn_flatten, List.flatMap_cons,
    List.flatMap_nil, List.append_nil, List.append_assoc, TransferObject.fields, wordsIn_append,
    hfields]
  rfl

theorem mem_with_fields_iff {α β : Type*} (w : α) (fields : List β) (as bs cs : List α)
    (p q : β → List α) :
    w ∈ as ++ fields.flatMap p ++ bs ++ fields.flatMap q ++ cs ↔
      w ∈ as ++ bs ++ cs ∨ ∃ f ∈ fields, w ∈ p f ++ q f := by
  simp only [List.mem_append, List.mem_flatMap, and_or_left, exists_or, or_assoc, or_left_comm,
    or_comm]

/-- Of the words of a file some stand in it whatever the fields are, and the others in what it has
for one of the fields. -/
theorem mem_fileWords_listing (ctx : Context) (k : ArtifactKind) (w : List Char) :
    w ∈ fileWords (k.listing ctx) ↔
      w ∈ fileWords (k.listing ctx.bare) ∨ ∃ f ∈ ctx.fields, w ∈ wordsIn (k.members f) := by
  have hnone : ∀ ls : Listing, w ∈ fileWords ls ↔
      w ∈ fileWords ls ∨ ∃ f ∈ ctx.fields, w ∈ wordsIn [] := by
    intro ls
    simp [wordsIn_nil]
  have hbare : ctx.bare.fields = [] := rfl
  cases k
  case entity =>
    simp only [ArtifactKind.listing, ArtifactKind.members, wordsIn_append, fileWords_entity,
      mem_with_fields_iff, hbare, List.not_mem_nil, false_and, exists_false, or_false]
    rfl
  case transferObject =>
    simp only [ArtifactKind.listing, ArtifactKind.members, wordsIn_append, fileWords_transferObject,
      mem_with_fields_iff, hbare, List.not_mem_nil, false_and, exists_false, or_false]
    rfl
  all_goals exact hnone _

end Listing

namespace Filling.IsSafe

open Listing

variable {σ : Filling} (h : σ.IsSafe)

include h in
/-- What may end the thing that a name stands in comes in with no name. -/
theorem spares_mark (p : Char → Bool)
    (hp : ∀ c, p c = true → c.toNat < 0x80 ∧ Naming.continuesIdentifier c = false ∧ c ≠ '.')
    (cs : List Char) : Spares σ.spelling p cs := by
  intro c _
  refine ⟨fun hc => σ.spelling_ascii c (hp c hc).1, fun hc d hd => ?_⟩
  rcases h.isInert_of_mem_spelling c d hd with heq | hinert
  · rw [heq, List.mem_singleton] at hd
    rwa [hd]
  · by_contra hmark
    rw [Bool.not_eq_false] at hmark
    obtain ⟨hascii, hcontinues, hdot⟩ := hp d hmark
    rcases hinert hascii with hd | hd
    · rw [hcontinues] at hd
      exact absurd hd (by decide)
    · exact hdot hd

include h in
theorem spares_dot (cs : List Char) (hcs : 'π' ∉ cs) : Spares σ.spelling (· == '.') cs := by
  intro c hc
  refine ⟨fun hdot => ?_, fun hdot d hd => ?_⟩
  · rw [beq_iff_eq.mp hdot]
    exact σ.spelling_ascii '.' (by decide)
  · rw [beq_eq_false_iff_ne] at hdot ⊢
    rintro rfl
    rcases σ.spelling_cases c with ⟨name, hmem, heq⟩ | heq
    · rw [heq] at hd
      refine h.undotted _ hmem ?_ hd
      rintro rfl
      exact hcs hc
    · rw [heq, List.mem_singleton] at hd
      exact hdot hd.symm

include h in
/-- No name that is filled in brings a mark with it. -/
theorem spares_char (mark : Char) (hascii : mark.toNat < 0x80)
    (hmark : Naming.continuesIdentifier mark = false) (hdot : mark ≠ '.') (cs : List Char) :
    Spares σ.spelling (· == mark) cs := by
  apply h.spares_mark
  intro c hc
  rw [beq_iff_eq.mp hc]
  exact ⟨hascii, hmark, hdot⟩

include h in
/-- Names that are filled in neither open nor close a quote. -/
theorem unquoted_flatMap (inside : Bool) (cs : List Char) :
    unquoted inside (cs.flatMap σ.spelling) = (unquoted inside cs).flatMap σ.spelling := by
  induction cs generalizing inside with
  | nil => rfl
  | cons c cs ih =>
    obtain ⟨hkeep, hnone⟩ := h.spares_char '"' (by decide) (by decide) (by decide) [c] c (by simp)
    by_cases hc : c = '"'
    · subst hc
      rw [List.flatMap_cons, hkeep (by decide), List.singleton_append]
      simp [unquoted, ih, hkeep (by decide)]
    · have hquote : '"' ∉ σ.spelling c := by
        intro hmem
        exact absurd (hnone (by simpa using hc) '"' hmem) (by decide)
      rw [List.flatMap_cons]
      cases inside with
      | true => simp [unquoted, hc, unquoted_append true _ _ hquote, ih]
      | false => simp [unquoted, hc, unquoted_append false _ _ hquote, ih]

include h in
/-- Filling in names makes no comment and ends none. -/
theorem isComment_flatMap (cs : List Char) :
    isComment (cs.flatMap σ.spelling) = isComment cs := by
  have hblank := h.spares_char ' ' (by decide) (by decide) (by decide) cs
  rw [isComment, isComment, dropWhile_flatMap h.spelling_ne_nil cs hblank]
  cases cs.dropWhile (· == ' ') with
  | nil => rfl
  | cons c rest =>
    -- What comes in for the first character begins a comment exactly if the character does.
    have hmark := h.spares_mark (fun d => d == '/' || d == '*') (by
      intro d hd
      rcases Bool.or_eq_true_iff.mp hd with hd | hd <;>
      · rw [beq_iff_eq.mp hd]
        decide) [c] c (by simp)
    obtain ⟨hkeep, hnone⟩ := hmark
    by_cases hc : (c == '/' || c == '*') = true
    · simp [hkeep hc]
    · rw [Bool.not_eq_true] at hc
      obtain ⟨d, ds, hds⟩ := List.exists_cons_of_ne_nil (h.spelling_ne_nil c)
      have hd := hnone hc d (by simp [hds])
      simp only [List.flatMap_cons, hds, List.cons_append]
      exact hd.trans hc.symm

include h in
/-- Unless the package stands in a line of code, its words are filled in one by one. -/
theorem lineWords_flatMap (cs : List Char)
    (hcs : isComment cs = true ∨ ∀ w ∈ pieces cs, 'π' ∉ w) :
    lineWords (cs.flatMap σ.spelling) = (lineWords cs).map (·.flatMap σ.spelling) := by
  rw [lineWords, lineWords, h.isComment_flatMap]
  rcases hcs with hcomment | hpackage
  · simp [hcomment]
  · have hmarks : Spares σ.spelling partsWords (unquoted false cs) := by
      apply h.spares_mark
      intro c hc
      simpa [partsWords, and_assoc] using hc
    have hpieces : pieces (cs.flatMap σ.spelling) = (pieces cs).map (·.flatMap σ.spelling) := by
      rw [pieces, h.unquoted_flatMap, splitOnP_flatMap _ hmarks]
      rfl
    -- Only the part before the first dot counts, and no name that is filled in there has one.
    have hfirst : ((pieces cs).map (·.flatMap σ.spelling)).map (·.takeWhile (· != '.')) =
        ((pieces cs).map (·.takeWhile (· != '.'))).map (·.flatMap σ.spelling) := by
      rw [List.map_map, List.map_map]
      apply List.map_congr_left
      intro w hw
      apply takeWhile_flatMap
      simpa [bne] using h.spares_dot w (hpackage w hw)
    rw [hpieces, hfirst, filter_map_flatMap h.spelling_ne_nil]
    split <;> rfl

include h in
/-- A text of marks only comes of no other text. -/
theorem flatMap_eq_marks_iff (cs marks : List Char)
    (hmarks : ∀ c ∈ marks, c.toNat < 0x80 ∧ Naming.continuesIdentifier c = false ∧ c ≠ '.') :
    cs.flatMap σ.spelling = marks ↔ cs = marks := by
  induction cs generalizing marks with
  | nil => simp
  | cons c cs ih =>
    obtain ⟨d, ds, hds⟩ := List.exists_cons_of_ne_nil (h.spelling_ne_nil c)
    rw [List.flatMap_cons, hds, List.cons_append]
    cases marks with
    | nil => simp
    | cons m marks =>
      obtain ⟨hascii, hcontinues, hdot⟩ := hmarks m (by simp)
      have hrest := ih marks fun e he => hmarks e (by simp [he])
      rcases h.isInert_of_mem_spelling c d (by simp [hds]) with heq | hinert
      · rw [hds, List.cons_eq_cons] at heq
        rw [heq.1, heq.2, List.nil_append, List.cons_eq_cons, List.cons_eq_cons, hrest]
      · -- Neither what is filled in nor the letter that it is filled in for is a mark.
        have hd : d ≠ m := by
          rintro rfl
          rcases hinert hascii with hd | hd
          · rw [hcontinues] at hd
            exact absurd hd (by decide)
          · exact hdot hd
        have hc : c ≠ m := by
          rintro rfl
          rw [σ.spelling_ascii c hascii, List.cons_eq_cons] at hds
          exact hd hds.1.symm
        simp [hd, hc]

include h in
theorem declarationLines_map (css : List (List Char)) :
    declarationLines (css.map (·.flatMap σ.spelling)) =
      (declarationLines css).map (·.flatMap σ.spelling) := by
  have hmarks : ∀ c ∈ ['/', '*', '*'],
      c.toNat < 0x80 ∧ Naming.continuesIdentifier c = false ∧ c ≠ '.' := by
    simp only [List.forall_mem_cons]
    exact ⟨by decide, by decide, by decide, by simp⟩
  have hstart : ∀ cs : List Char,
      cs.flatMap σ.spelling = ['/', '*', '*'] ↔ cs = ['/', '*', '*'] :=
    fun cs => h.flatMap_eq_marks_iff cs _ hmarks
  simp only [declarationLines, List.dropWhile_map, Function.comp_def, ne_eq, hstart]

include h in
/-- The words of lines that are filled in, if the package stands in no code of theirs. -/
theorem flatMap_lineWords_map (css : List (List Char))
    (hcss : ∀ cs ∈ css, isComment cs = true ∨ ∀ w ∈ pieces cs, 'π' ∉ w) :
    (css.map (·.flatMap σ.spelling)).flatMap lineWords =
      (css.flatMap lineWords).map (·.flatMap σ.spelling) := by
  rw [List.flatMap_map, List.map_flatMap]
  exact List.flatMap_congr fun cs hcs => h.lineWords_flatMap cs (hcss cs hcs)

end Filling.IsSafe
end CrudLayer
