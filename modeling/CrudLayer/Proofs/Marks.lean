import Mathlib
import CrudLayer.Proofs.ClassLines
import CrudLayer.Proofs.Nesting

/-!
The marks of generated files, which are all that could open or close a text, a comment, a block or a
line. No name has one, so the marks of a file depend on its kind and on the number of its fields
only.
-/
namespace CrudLayer

open Listing

/-- An ASCII character that no name in a file has. -/
def isMark (c : Char) : Bool :=
  decide (c.toNat < 0x80) && !Naming.continuesIdentifier c && c != '.'

/-- The characters that are no marks are the inert ones. -/
theorem isMark_eq_false_iff (c : Char) : isMark c = false ↔ IsInert c := by
  unfold isMark IsInert
  by_cases hascii : c.toNat < 0x80 <;> by_cases hplain : Naming.continuesIdentifier c = true <;>
    simp [hascii, hplain]

def marksIn (cs : List Char) : List Char := cs.filter isMark

theorem marksIn_append (as bs : List Char) : marksIn (as ++ bs) = marksIn as ++ marksIn bs :=
  List.filter_append as bs

/-- A name has no marks. -/
theorem marksIn_of_isInertText (s : String) (h : IsInertText s) : marksIn s.toList = [] := by
  refine List.filter_eq_nil_iff.mpr fun c hc => ?_
  rw [(isMark_eq_false_iff c).mpr (h c hc)]
  decide

theorem marksIn_javaType (s : SemanticType) : marksIn s.javaType.toList = [] :=
  marksIn_of_isInertText _ (isInertText_of_arePlain _ (Members.isPlainWord_javaType s).plain)

/-- The marks of each line. -/
def Listing.marks (ls : Listing) : List (List Char) := (characters ls).map marksIn

theorem Listing.marks_append (as bs : Listing) : marks (as ++ bs) = marks as ++ marks bs := by
  rw [marks, characters_append, List.map_append]
  rfl

theorem Listing.marks_flatMap {α : Type*} (g : α → Listing) (xs : List α) :
    marks (xs.flatMap g) = xs.flatMap fun x => marks (g x) := by
  simp only [marks, characters, List.map_flatMap]

namespace Filling.IsSafe

variable {σ : Filling} (h : σ.IsSafe)

include h in
/-- A letter is no mark, and neither is what it stands for. -/
theorem marksIn_spelling (c : Char) : marksIn (σ.spelling c) = marksIn [c] := by
  by_cases hascii : c.toNat < 0x80
  · rw [σ.spelling_ascii c hascii]
  · rcases σ.spelling_cases c with ⟨name, hmem, heq⟩ | heq
    · have hc : isMark c = false := (isMark_eq_false_iff c).mpr fun h => absurd h hascii
      rw [heq, marksIn_of_isInertText _ (h.inert _ hmem)]
      simp [marksIn, hc]
    · rw [heq]

include h in
/-- Filling in names leaves the marks as they are. -/
theorem marks_map_fill (ls : Listing) : marks (ls.map σ.fill) = marks ls := by
  have hline : ∀ cs : List Char, marksIn (cs.flatMap σ.spelling) = marksIn cs := by
    intro cs
    induction cs with
    | nil => rfl
    | cons c cs ih =>
      rw [List.flatMap_cons, marksIn_append, h.marksIn_spelling, ih, ← marksIn_append]
      rfl
  simp only [marks, characters_map_fill, List.map_map]
  exact List.map_congr_left fun cs _ => hline cs

include h in
/-- The marks of a file without fields are those of its form. -/
theorem marks_bare (k : ArtifactKind) :
    marks (k.listing σ.context.bare) = marks (k.listing (Context.form [])) := by
  rw [← h.map_fill_listing k, h.marks_map_fill]

end Filling.IsSafe

structure Field.IsInert (f : Field) : Prop where
  name : IsInertText f.name
  accessor : IsInertText f.accessor
  column : IsInertText f.columnName

theorem Field.isInert_identity : Field.identity.IsInert where
  name := isInertText_of_arePlain _ (Naming.arePlain_of_isIdentifier _ (by decide))
  accessor := isInertText_of_arePlain _ (Naming.arePlain_of_isIdentifier _ (by decide))
  column := isInertText_of_arePlain _ (Naming.arePlain_of_isIdentifier _ (by decide))

/-- The lines of one field have the marks of those of any other. -/
theorem ArtifactKind.marks_fieldLines (k : ArtifactKind) (f g : Field) (hf : f.IsInert)
    (hg : g.IsInert) :
    marks (indented (k.fieldLines f)) = marks (indented (k.fieldLines g)) := by
  cases k
  case entity =>
    simp only [ArtifactKind.indented_fieldLines_entity, Members.declaration, marks, characters_cons,
      characters_nil, List.map_cons, List.map_nil, String.toList_append, marksIn_append,
      marksIn_javaType, marksIn_of_isInertText _ hf.name, marksIn_of_isInertText _ hg.name,
      marksIn_of_isInertText _ hf.column, marksIn_of_isInertText _ hg.column]
  case transferObject =>
    simp only [ArtifactKind.indented_fieldLines_transferObject, Members.declaration, marks,
      characters_cons, characters_nil, List.map_cons, List.map_nil, String.toList_append,
      marksIn_append, marksIn_javaType, marksIn_of_isInertText _ hf.name,
      marksIn_of_isInertText _ hg.name]
  all_goals rfl

theorem Members.marks_accessorLines (f g : Field) (hf : f.IsInert) (hg : g.IsInert) :
    marks (indented (accessorLines f)) = marks (indented (accessorLines g)) := by
  rw [indented_accessorLines, indented_accessorLines]
  unfold getterHead setterHead
  simp only [marks, characters_cons, characters_nil, List.map_cons, List.map_nil,
    String.toList_append, marksIn_append, marksIn_javaType, marksIn_of_isInertText _ hf.name,
    marksIn_of_isInertText _ hg.name, marksIn_of_isInertText _ hf.accessor,
    marksIn_of_isInertText _ hg.accessor]

def ArtifactKind.fieldMarks (k : ArtifactKind) : List (List Char) :=
  marks (indented (k.fieldLines Field.identity))

def Members.accessorMarks : List (List Char) := marks (indented (accessorLines Field.identity))

theorem flatMap_const_eq {α β : Type*} (xs : List α) (ys : List β) :
    (xs.flatMap fun _ => ys) = (List.replicate xs.length ys).flatten := by
  rw [List.flatMap_def, List.map_const']

namespace ArtifactKind

/-- The marks of the fields are put in at two places, one time for every field. -/
theorem exists_marks (k : ArtifactKind) (hk : k ∈ Members.holders) (ctx : Context) :
    ∃ before, ∀ fields : List Field, (∀ f ∈ fields, f.IsInert) →
      marks (k.listing { ctx with fields := fields }) =
        before ++ (List.replicate fields.length k.fieldMarks).flatten ++
          (List.replicate (fields.length + 1) Members.accessorMarks).flatten ++ [['\x7d']] := by
  obtain ⟨heading, -, hlisting⟩ := k.exists_heading hk ctx
  refine ⟨marks heading ++ marks (indented k.opening), fun fields hfields => ?_⟩
  have hinert : ∀ f ∈ Field.identity :: fields, f.IsInert :=
    List.forall_mem_cons.mpr ⟨Field.isInert_identity, hfields⟩
  -- All fields have the same marks, whatever their names.
  have hdeclared : fields.flatMap (fun f => marks (indented (k.fieldLines f))) =
      (List.replicate fields.length k.fieldMarks).flatten := by
    rw [← flatMap_const_eq]
    exact List.flatMap_congr fun f hf =>
      k.marks_fieldLines f _ (hfields f hf) Field.isInert_identity
  have haccessors : (Field.identity :: fields).flatMap
        (fun f => marks (indented (Members.accessorLines f))) =
      (List.replicate (fields.length + 1) Members.accessorMarks).flatten := by
    rw [← List.length_cons, ← flatMap_const_eq]
    exact List.flatMap_congr fun f hf =>
      Members.marks_accessorLines f _ (hinert f hf) Field.isInert_identity
  have hclose : marks ["\x7d"] = [['\x7d']] := by decide
  rw [hlisting fields, indented_body, marks_append, marks_append, marks_append, marks_append,
    marks_flatMap, marks_flatMap, hdeclared, haccessors, hclose]
  simp only [List.append_assoc]

/-- The marks of a file depend on its kind and on the number of its fields. -/
theorem marks_congr (k : ArtifactKind) (ctx ctx' : Context)
    (hbare : marks (k.listing ctx.bare) = marks (k.listing ctx'.bare))
    (hf : ∀ f ∈ ctx.fields, f.IsInert) (hf' : ∀ f ∈ ctx'.fields, f.IsInert)
    (hlength : ctx.fields.length = ctx'.fields.length) :
    marks (k.listing ctx) = marks (k.listing ctx') := by
  by_cases hk : k ∈ Members.holders
  · obtain ⟨before, hbefore⟩ := k.exists_marks hk ctx
    obtain ⟨before', hbefore'⟩ := k.exists_marks hk ctx'
    -- What stands before the fields is seen in the files without any.
    have hsame : before = before' := by
      have hnil := hbefore [] (by simp)
      have hnil' := hbefore' [] (by simp)
      have heq := (hnil.symm.trans hbare).trans hnil'
      exact List.append_cancel_right (List.append_cancel_right (List.append_cancel_right heq))
    calc marks (k.listing ctx)
        = before ++ (List.replicate ctx.fields.length k.fieldMarks).flatten ++
            (List.replicate (ctx.fields.length + 1) Members.accessorMarks).flatten ++ [['\x7d']] :=
          hbefore ctx.fields hf
      _ = before' ++ (List.replicate ctx'.fields.length k.fieldMarks).flatten ++
            (List.replicate (ctx'.fields.length + 1) Members.accessorMarks).flatten ++
              [['\x7d']] := by rw [hsame, hlength]
      _ = marks (k.listing ctx') := (hbefore' ctx'.fields hf').symm
  · rw [← k.listing_bare ctx hk, ← k.listing_bare ctx' hk, hbare]

/-- The number of lines of a file, for a number of fields. -/
def lineCount (k : ArtifactKind) (fields : Nat) : Nat :=
  match k with
  | entity => 27 + 11 * fields
  | transferObject => 21 + 9 * fields
  | serviceInterface => 58
  | serviceImplementation => 82
  | resourceHandler => 174
  | repository => 11
  | mapper => 28

/-- Every field adds the lines that have its marks. -/
theorem lineCount_of_mem (k : ArtifactKind) (hk : k ∈ Members.holders) (fields : Nat) :
    k.lineCount fields =
      k.lineCount 0 + fields * (k.fieldMarks.length + Members.accessorMarks.length) := by
  have haccessor : Members.accessorMarks.length = 8 := by decide
  have hentity : entity.fieldMarks.length = 3 := by decide
  have htransferObject : transferObject.fieldMarks.length = 1 := by decide
  rcases Members.mem_holders_iff.mp hk with rfl | rfl
  · simp only [lineCount, hentity, haccessor]
    omega
  · simp only [lineCount, htransferObject, haccessor]
    omega

theorem lineCount_of_not_mem (k : ArtifactKind) (hk : k ∉ Members.holders) (fields : Nat) :
    k.lineCount fields = k.lineCount 0 := by
  rw [Members.mem_holders_iff, not_or] at hk
  cases k
  case entity => exact absurd rfl hk.1
  case transferObject => exact absurd rfl hk.2
  all_goals rfl

end ArtifactKind

section Forms

variable (k : ArtifactKind)

/-- The marks of a form are those of the characters that are put down. -/
theorem marks_form :
    marks (k.listing (Context.form [])) = (formCharacters k).val.map marksIn :=
  congrArg (·.map marksIn) (characters_form k)

theorem length_form : (k.listing (Context.form [])).length = k.lineCount 0 := by
  have hlength : (k.listing (Context.form [])).length = (formCharacters k).val.length := by
    rw [← characters_form, characters, List.length_map]
  rw [hlength]
  cases k <;> rfl

/-- In every line the quotes come in pairs. -/
theorem even_quotes_form :
    ∀ ms ∈ marks (k.listing (Context.form [])), Even (ms.count '"') := by
  rw [marks_form]
  cases k <;> decide +kernel

/-- The brackets of a form are nested. -/
theorem nested_form : Nested (marks (k.listing (Context.form []))).flatten := by
  rw [marks_form]
  cases k <;> decide +kernel

end Forms

/-- The text of a listing has the brackets of its marks. -/
theorem awaited?_render (ls : Listing) (waiting : List Char) :
    awaited? waiting ls.render.toList = awaited? waiting (marks ls).flatten := by
  have hother : ∀ c, isMark c = false → closing? c = none ∧ isClosing c = false := by
    intro c hc
    have hne : ∀ d, isMark d = true → c ≠ d := by
      rintro d hd rfl
      rw [hc] at hd
      exact absurd hd (by decide)
    simp [closing?, isClosing, hne '(' (by decide), hne ')' (by decide), hne '\x7b' (by decide),
      hne '\x7d' (by decide)]
  -- A line break is no bracket, so nothing is changed by joining the lines.
  have hbreak : Nested ['\n'] := .other (by decide) (by decide) .nil
  have hjoin : ∀ css : List (List Char),
      awaited? waiting (['\n'].intercalate css) = awaited? waiting css.flatten := by
    intro css
    induction css generalizing waiting with
    | nil => rfl
    | cons cs css ih =>
      cases css with
      | nil => simp
      | cons next css =>
        rw [List.intercalate_cons_cons, hbreak.awaited?_insert, awaited?_append, List.flatten_cons,
          awaited?_append]
        exact Option.bind_congr fun rest _ => ih rest
  have hmarks : (marks ls).flatten = marksIn (characters ls).flatten := by
    rw [marks, marksIn, List.filter_flatten]
    rfl
  rw [hmarks, marksIn, awaited?_filter isMark hother, ← hjoin, render, String.toList_intercalate]
  rfl

section Accepted

variable (t : Table) (c : Config) (ht : t.checkNames = .ok ())
  (hc : Config.checkPackage c.basePackage = .ok ()) (k : ArtifactKind)

include ht in
theorem isInert_of_mem_fields (f : Field) (hf : f ∈ t.fields) : f.IsInert := by
  obtain ⟨hname, haccessor, hcolumn⟩ := isSafeName_of_mem_fields t ht f hf
  exact ⟨hname.inert, haccessor.inert, hcolumn.inert⟩

include ht hc in
theorem marks_bare_ofTable :
    marks (k.listing (Context.ofTable t c).bare) = marks (k.listing (Context.form [])) :=
  (Filling.isSafe_withoutField t c ht hc).marks_bare k

include ht hc in
/-- The files without fields have the marks of their forms. -/
theorem marks_ofTable_of_not_mem (hk : k ∉ Members.holders) :
    marks (k.listing (Context.ofTable t c)) = marks (k.listing (Context.form [])) := by
  rw [← k.listing_bare _ hk, marks_bare_ofTable t c ht hc k]

include ht hc in
/-- A class has the marks of its form and, at two places, those of its fields. -/
theorem exists_marks_ofTable (hk : k ∈ Members.holders) :
    ∃ before,
      marks (k.listing (Context.form [])) = before ++ (Members.accessorMarks ++ [['\x7d']]) ∧
      marks (k.listing (Context.ofTable t c)) =
        before ++ (List.replicate t.columns.length k.fieldMarks).flatten ++
          (List.replicate t.columns.length Members.accessorMarks).flatten ++
            (Members.accessorMarks ++ [['\x7d']]) := by
  obtain ⟨before, hbefore⟩ := k.exists_marks hk (Context.ofTable t c)
  have hfields : t.fields.length = t.columns.length := List.length_map _
  refine ⟨before, ?_, ?_⟩
  · rw [← marks_bare_ofTable t c ht hc k, Context.bare, hbefore [] (by simp)]
    simp
  · calc marks (k.listing (Context.ofTable t c))
        = before ++ (List.replicate t.fields.length k.fieldMarks).flatten ++
            (List.replicate (t.fields.length + 1) Members.accessorMarks).flatten ++ [['\x7d']] :=
          hbefore t.fields (isInert_of_mem_fields t ht)
      _ = _ := by
        rw [hfields, List.replicate_succ']
        simp

include ht hc in
/-- What holds of the marks of each line in a form, and of each line that a field has, holds of the
marks of all lines. -/
theorem forall_mem_marks (P : List Char → Prop)
    (hform : ∀ ms ∈ marks (k.listing (Context.form [])), P ms) (hfield : ∀ ms ∈ k.fieldMarks, P ms)
    (haccessor : ∀ ms ∈ Members.accessorMarks, P ms) :
    ∀ ms ∈ marks (k.listing (Context.ofTable t c)), P ms := by
  by_cases hk : k ∈ Members.holders
  · obtain ⟨before, hbare, hall⟩ := exists_marks_ofTable t c ht hc k hk
    have hrepeated : ∀ (n : Nat) (block : List (List Char)), (∀ ms ∈ block, P ms) →
        ∀ ms ∈ (List.replicate n block).flatten, P ms := by
      intro n block hblock ms hms
      obtain ⟨copy, hcopy, hmem⟩ := List.mem_flatten.mp hms
      rw [List.eq_of_mem_replicate hcopy] at hmem
      exact hblock ms hmem
    rw [hbare, List.forall_mem_append] at hform
    rw [hall, List.forall_mem_append, List.forall_mem_append, List.forall_mem_append]
    exact ⟨⟨⟨hform.1, hrepeated _ _ hfield⟩, hrepeated _ _ haccessor⟩, hform.2⟩
  · rwa [marks_ofTable_of_not_mem t c ht hc k hk]

theorem even_quotes_members :
    (∀ ms ∈ k.fieldMarks, Even (ms.count '"')) ∧
      ∀ ms ∈ Members.accessorMarks, Even (ms.count '"') := by
  cases k <;> decide +kernel

theorem nested_members : Nested k.fieldMarks.flatten ∧ Nested Members.accessorMarks.flatten := by
  cases k <;> decide +kernel

include ht hc in
/-- The brackets of a file are nested, whatever the names. -/
theorem nested_marks : Nested (marks (k.listing (Context.ofTable t c))).flatten := by
  have hform := nested_form k
  by_cases hk : k ∈ Members.holders
  · obtain ⟨before, hbare, hall⟩ := exists_marks_ofTable t c ht hc k hk
    have hrepeated : ∀ (n : Nat) (block : List (List Char)), Nested block.flatten →
        Nested (List.replicate n block).flatten.flatten := by
      intro n block hblock
      rw [List.flatten_flatten, List.map_replicate]
      refine nested_flatten _ fun cs hcs => ?_
      rwa [List.eq_of_mem_replicate hcs]
    -- The blocks of the fields are nested, so they may be put into the form at either place.
    obtain ⟨hfield, haccessor⟩ := nested_members k
    rw [nested_iff, hbare, List.flatten_append] at hform
    rw [nested_iff, hall, List.flatten_append, List.flatten_append, List.flatten_append,
      (hrepeated _ _ haccessor).awaited?_insert, (hrepeated _ _ hfield).awaited?_insert, hform]
  · rwa [marks_ofTable_of_not_mem t c ht hc k hk]

include ht hc in
/-- How many lines a file has depends on its kind and on how many columns there are. -/
theorem length_listing :
    (k.listing (Context.ofTable t c)).length = k.lineCount t.columns.length := by
  have hlength : ∀ ls : Listing, (marks ls).length = ls.length := by
    intro ls
    rw [marks, characters, List.length_map, List.length_map]
  have hform := length_form k
  rw [← hlength] at hform ⊢
  by_cases hk : k ∈ Members.holders
  · obtain ⟨before, hbare, hall⟩ := exists_marks_ofTable t c ht hc k hk
    rw [hbare, List.length_append] at hform
    rw [hall, k.lineCount_of_mem hk, ← hform]
    simp only [List.length_append, List.length_flatten, List.map_replicate, List.sum_replicate,
      smul_eq_mul]
    ring
  · rw [marks_ofTable_of_not_mem t c ht hc k hk, hform, k.lineCount_of_not_mem hk t.columns.length]

include ht hc in
/-- On each line of a file every quote is closed. -/
theorem even_quotes_listing :
    ∀ l ∈ k.listing (Context.ofTable t c), Even (l.toList.count '"') := by
  obtain ⟨hfield, haccessor⟩ := even_quotes_members k
  intro l hl
  have hmarks : marksIn l.toList ∈ marks (k.listing (Context.ofTable t c)) :=
    List.mem_map_of_mem (List.mem_map_of_mem hl)
  have hcount : (marksIn l.toList).count '"' = l.toList.count '"' :=
    List.count_filter (by decide)
  rw [← hcount]
  exact forall_mem_marks t c ht hc k (fun ms => Even (ms.count '"')) (even_quotes_form k) hfield
    haccessor _ hmarks

end Accepted

/-- Of the name of a table, which alone is printed as it was declared, every ASCII character may
stand in an identifier. In each file the quotes of a line come in pairs, the brackets are nested,
and there are as many lines as its kind and the number of columns say. No other names change any of
the marks. -/
theorem no_name_breaks_out (t : Table) (package : String) (path : Path) (c : Config)
    (ht : t.checkNames = .ok ()) (hc : Config.validate package path = .ok c) :
    (∀ d ∈ t.name.toList, d.toNat < 0x80 → d.isAlphanum = true ∨ d = '_' ∨ d = '$') ∧
    ∀ k : ArtifactKind,
      (∀ l ∈ lines (k.content (Context.ofTable t c)), Even (l.toList.count '"')) ∧
      Nested (k.content (Context.ofTable t c)).toList ∧
      (lines (k.content (Context.ofTable t c))).length = k.lineCount t.columns.length ∧
      ∀ (t' : Table) (package' : String) (path' : Path) (c' : Config), t'.checkNames = .ok () →
        Config.validate package' path' = .ok c' → t'.columns.length = t.columns.length →
        marks (lines (k.content (Context.ofTable t' c'))) =
          marks (lines (k.content (Context.ofTable t c))) := by
  obtain ⟨rfl, hpackage, -⟩ := Config.validate_eq_ok package path c hc
  refine ⟨?_, fun k => ⟨?_, ?_, ?_, ?_⟩⟩
  · intro d hd hascii
    have hplain := t.arePlainInAscii_name ht d hd hascii
    simpa [Naming.continuesIdentifier, or_assoc] using hplain
  · rw [lines_content t ⟨package, path⟩ ht hpackage k]
    exact even_quotes_listing t ⟨package, path⟩ ht hpackage k
  · rw [nested_iff, ArtifactKind.content, awaited?_render, ← nested_iff]
    exact nested_marks t ⟨package, path⟩ ht hpackage k
  · rw [lines_content t ⟨package, path⟩ ht hpackage k]
    exact length_listing t ⟨package, path⟩ ht hpackage k
  · -- Without its fields a listing has the marks of its form, and each field adds the same.
    intro t' package' path' c' ht' hc' hlength
    obtain ⟨rfl, hpackage', -⟩ := Config.validate_eq_ok package' path' c' hc'
    rw [lines_content t ⟨package, path⟩ ht hpackage k,
      lines_content t' ⟨package', path'⟩ ht' hpackage' k]
    apply k.marks_congr
    · rw [marks_bare_ofTable t ⟨package, path⟩ ht hpackage k,
        marks_bare_ofTable t' ⟨package', path'⟩ ht' hpackage' k]
    · exact isInert_of_mem_fields t' ht'
    · exact isInert_of_mem_fields t ht
    · simpa [Context.ofTable, Table.fields] using hlength

/-- A name that is not ASCII and whose entity name is. -/
def stockTable : Table := Table.ofColumns "ſtock" [⟨"note", "string"⟩]

theorem no_name_breaks_out_stock :
    (Entity.itemTable "order_id").checkNames = .ok () ∧ stockTable.checkNames = .ok () ∧
    (lines (ArtifactKind.entity.content
      (Context.ofTable (Entity.itemTable "order_id") ⟨"pkg", ⟨"out"⟩⟩))).length = 38 ∧
    ∀ k : ArtifactKind,
      marks (lines (k.content (Context.ofTable stockTable ⟨"com.example", ⟨"gen"⟩⟩))) =
        marks (lines (k.content (Context.ofTable (Entity.itemTable "order_id") ⟨"pkg", ⟨"out"⟩⟩))) := by
  have hitem : (Entity.itemTable "order_id").checkNames = .ok () := by decide
  have hstock : stockTable.checkNames = .ok () := by decide
  have hconfig : Config.validate "com.example" ⟨"gen"⟩ = .ok ⟨"com.example", ⟨"gen"⟩⟩ := by decide
  obtain ⟨-, hall⟩ :=
    no_name_breaks_out (Entity.itemTable "order_id") "pkg" ⟨"out"⟩ ⟨"pkg", ⟨"out"⟩⟩ hitem rfl
  refine ⟨hitem, hstock, ?_, fun k => ?_⟩
  · rw [(hall .entity).2.2.1]
    decide
  · exact (hall k).2.2.2 stockTable "com.example" ⟨"gen"⟩ _ hstock hconfig (by decide)

end CrudLayer
