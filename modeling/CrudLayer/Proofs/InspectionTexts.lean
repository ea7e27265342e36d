import Mathlib
import CrudLayer.Inspection
import CrudLayer.Proofs.Accepted
import CrudLayer.Proofs.Declarations
import CrudLayer.Proofs.JsonTexts

/-!
What can be told from a table that is shown. As text there are no quotes, so it is told from the
text only because no name of an accepted table has a blank or a comma in it. The text tells as much
as the JSON does.
-/
namespace CrudLayer

namespace Text

def blankNumbers : List Nat := [
  0x9, 0xA, 0xB, 0xC, 0xD, 0x20, 0x85, 0xA0, 0x1680, 0x2000, 0x2001, 0x2002, 0x2003, 0x2004, 0x2005,
  0x2006, 0x2007, 0x2008, 0x2009, 0x200A, 0x2028, 0x2029, 0x202F, 0x205F, 0x3000]

theorem mem_blankNumbers (c : Char) (h : isBlank c = true) : c.toNat ∈ blankNumbers := by
  simp only [isBlank, Bool.or_eq_true, Bool.and_eq_true, decide_eq_true_eq, beq_iff_eq] at h
  simp only [blankNumbers, List.mem_cons, List.not_mem_nil, or_false]
  omega

end Text

namespace Naming

/-- The character is its own capital and stands in no identifier, so that no name that has it comes
to an identifier. -/
def Stays (c : Char) : Prop := Text.upper c = [c] ∧ continuesIdentifier c = false

instance (c : Char) : Decidable (Stays c) := inferInstanceAs (Decidable (_ ∧ _))

theorem Stays.mem_camel {c : Char} (h : Stays c) (raise : Bool) (cs : List Char) (hc : c ∈ cs) :
    c ∈ camel raise cs := by
  have hne : c ≠ '_' := by
    rintro rfl
    exact absurd h.2 (by decide)
  induction cs generalizing raise with
  | nil => exact absurd hc List.not_mem_nil
  | cons d cs ih =>
    rw [camel]
    rcases List.mem_cons.mp hc with rfl | hc
    · simp only [if_neg hne, h.1]
      split_ifs <;> simp
    · split_ifs
      · exact ih true hc
      · exact List.mem_append_right _ (ih false hc)
      · exact List.mem_cons_of_mem _ (ih false hc)

theorem Stays.mem_capital {c : Char} (h : Stays c) (cs : List Char) (hc : c ∈ cs) :
    c ∈ capital cs := by
  cases cs with
  | nil => exact absurd hc List.not_mem_nil
  | cons d cs =>
    rw [capital]
    rcases List.mem_cons.mp hc with rfl | hc
    · simp [h.1]
    · exact List.mem_append_right _ hc

/-- White space is its own capital, and no name with it comes to an identifier. -/
theorem stays_of_isBlank (c : Char) (h : Text.isBlank c = true) : Stays c := by
  have hall : ∀ n ∈ Text.blankNumbers, Stays (Char.ofNat n) := by
    decide +kernel
  have hc := hall c.toNat (Text.mem_blankNumbers c h)
  rwa [Char.ofNat_toNat] at hc

theorem stays_comma : Stays ',' := by
  decide

end Naming

namespace Inspection

/-- The text has no white space and no comma, so that where one of them follows, it ends. -/
structure IsUnsplit (s : String) : Prop where
  blank : ∀ c, Text.isBlank c = true → c ∉ s.toList
  comma : ',' ∉ s.toList

/-- A name without such characters has no place to be split at. -/
theorem isUnsplit_of_stays {s : String} (h : ∀ c, Naming.Stays c → c ∉ s.toList) : IsUnsplit s where
  blank c hc := h c (Naming.stays_of_isBlank c hc)
  comma := h ',' Naming.stays_comma

theorem isUnsplit_of_arePlain {s : String} (h : Naming.ArePlain s.toList) : IsUnsplit s :=
  isUnsplit_of_stays fun c hc => h.not_mem c hc.2

section Names

variable {t : Table}

theorem isUnsplit_entityName (h : t.checkNames = .ok ()) : IsUnsplit t.entityName :=
  isUnsplit_of_arePlain (Naming.arePlain_of_isIdentifier _ (t.isIdentifier_entityName h))

/-- The name of an accepted table has no white space and no comma. -/
theorem isUnsplit_name (h : t.checkNames = .ok ()) : IsUnsplit t.name := by
  refine isUnsplit_of_stays fun c hc hmem => ?_
  have hplain := Naming.arePlain_of_isIdentifier _ (t.isIdentifier_entityName h)
  apply hplain.not_mem c hc.2
  simp only [Table.entityName, Naming.entityName, Naming.capitalize, Naming.snakeToCamel,
    String.toList_ofList]
  exact hc.mem_capital _ (hc.mem_camel false _ hmem)

theorem isUnsplit_columnName (h : t.checkNames = .ok ()) {col : Column} (hcol : col ∈ t.columns) :
    IsUnsplit col.name := by
  refine isUnsplit_of_stays fun c hc hmem => ?_
  apply (t.arePlain_fieldName h col hcol).not_mem c hc.2
  simp only [Column.fieldName, Naming.snakeToCamel, String.toList_ofList]
  exact hc.mem_camel false _ hmem

theorem columnName_ne_nil (h : t.checkNames = .ok ()) {col : Column} (hcol : col ∈ t.columns) :
    col.name.toList ≠ [] := by
  intro hnil
  obtain ⟨c, cs, hs⟩ := Naming.exists_cons_of_isIdentifier _ (t.isIdentifier_fieldName h col hcol)
  rw [Column.fieldName, Naming.snakeToCamel, hnil] at hs
  exact absurd hs (by simp [Naming.camel])

theorem isUnsplit_field (h : t.checkNames = .ok ()) {f : Field} (hf : f ∈ t.fields) :
    IsUnsplit f.name ∧ IsUnsplit f.columnName := by
  obtain ⟨c, hc, rfl⟩ := List.mem_map.mp hf
  have hplain := t.arePlain_fieldName h c hc
  exact ⟨isUnsplit_of_arePlain hplain,
    isUnsplit_of_arePlain (Naming.arePlain_camelToSnake _ hplain)⟩

end Names

def EndsFilled (l : String) : Prop := ∃ c ∈ l.toList.getLast?, Text.isBlank c = false

theorem endsFilled_append (s l : String) (h : EndsFilled l) : EndsFilled (s ++ l) := by
  obtain ⟨c, hc, hblank⟩ := h
  refine ⟨c, ?_, hblank⟩
  rw [String.toList_append, List.getLast?_append, Option.mem_def.mp hc]
  rfl

theorem IsUnsplit.endsFilled {s : String} (h : IsUnsplit s) (hne : s.toList ≠ []) :
    EndsFilled s := by
  refine ⟨_, List.getLast?_eq_getLast_of_ne_nil hne, ?_⟩
  by_contra hblank
  rw [Bool.not_eq_false] at hblank
  exact h.blank _ hblank (List.getLast_mem hne)

theorem join_lines (ls : Listing) (hne : ls ≠ []) :
    String.join (ls.map (· ++ "\n")) = ls.render ++ "\n" := by
  apply String.toList_inj.mp
  simp only [Listing.render, String.toList_join, String.toList_append, String.toList_intercalate]
  induction ls with
  | nil => exact absurd rfl hne
  | cons l ls ih =>
    cases ls with
    | nil => simp
    | cons next ls =>
      have hrest := ih (by simp)
      simp only [List.map_cons, List.flatMap_cons, List.intercalate_cons_cons] at hrest ⊢
      rw [hrest]
      simp

theorem endsFilled_intercalate (separator : String) (ls : List String) (hne : ls ≠ [])
    (h : ∀ l ∈ ls, EndsFilled l) : EndsFilled (separator.intercalate ls) := by
  induction ls with
  | nil => exact absurd rfl hne
  | cons l ls ih =>
    cases ls with
    | nil =>
      rw [String.intercalate_singleton]
      exact h l (by simp)
    | cons next ls =>
      rw [String.intercalate_cons_cons]
      exact endsFilled_append _ _ (ih (by simp) fun l hl => h l (by simp [hl]))

theorem notMem_intercalate {c : Char} {separator : String} {ls : List String}
    (hseparator : c ∉ separator.toList) (h : ∀ l ∈ ls, c ∉ l.toList) :
    c ∉ (separator.intercalate ls).toList := by
  induction ls with
  | nil => simp
  | cons l ls ih =>
    cases ls with
    | nil =>
      rw [String.intercalate_singleton]
      exact h l (by simp)
    | cons next ls =>
      have hrest := ih fun l hl => h l (by simp [hl])
      simp only [String.intercalate_cons_cons, String.toList_append, List.mem_append, not_or]
      exact ⟨⟨h l (by simp), hseparator⟩, hrest⟩

/-- Of a line, trimming takes the line end and nothing else. -/
theorem trimEnd_line (s : String) (h : EndsFilled s) : Text.trimEnd (s ++ "\n") = s := by
  obtain ⟨c, hc, hblank⟩ := h
  rw [List.getLast?_eq_head?_reverse] at hc
  obtain ⟨rest, hrest⟩ := List.head?_eq_some_iff.mp hc
  have hreverse : (s ++ "\n").toList.reverse = '\n' :: c :: rest := by
    rw [String.toList_append, List.reverse_append, hrest]
    rfl
  have hbreak : Text.isBlank '\n' = true := by decide
  rw [Text.trimEnd, hreverse, List.dropWhile_cons_of_pos hbreak,
    List.dropWhile_cons_of_neg (by simp [hblank]), ← hrest, List.reverse_reverse,
    String.ofList_toList]

/-- Where the last line ends in no white space, all that is left out at the end is its line end. -/
theorem trimEnd_join (ls : Listing) (hne : ls ≠ []) (h : ∀ l ∈ ls, EndsFilled l) :
    Text.trimEnd (String.join (ls.map (· ++ "\n"))) = ls.render := by
  rw [join_lines ls hne]
  exact trimEnd_line _ (endsFilled_intercalate "\n" ls hne h)

section Accepted

variable {t : Table}

/-- No line ends in white space. -/
theorem endsFilled_lines (h : t.checkNames = .ok ()) : ∀ l ∈ lines t, EndsFilled l := by
  have hentity : EndsFilled t.entityName := by
    obtain ⟨c, cs, hs⟩ := Naming.exists_cons_of_isIdentifier _ (t.isIdentifier_entityName h)
    exact (isUnsplit_entityName h).endsFilled (by simp [hs])
  have hcolumn : ∀ c ∈ t.columns, EndsFilled c.name := fun c hc =>
    (isUnsplit_columnName h hc).endsFilled (columnName_ne_nil h hc)
  intro l hl
  simp only [lines, List.mem_append, List.mem_cons, List.not_mem_nil, or_false, List.mem_map,
    Option.mem_toList] at hl
  rcases hl with ((rfl | rfl) | ⟨f, -, rfl⟩) | hl
  · exact endsFilled_append _ _ hentity
  · exact endsFilled_append _ " (identity, generated)" ⟨')', rfl, by decide⟩
  · exact endsFilled_append _ ")" ⟨')', rfl, by decide⟩
  · rw [fallbackLine?] at hl
    split_ifs at hl with hempty
    obtain rfl := Option.some.inj hl
    refine endsFilled_append _ _ (endsFilled_intercalate _ _ ?_ ?_)
    · simpa using hempty
    · rw [List.forall_mem_map]
      exact fun c hc => hcolumn c (List.mem_of_mem_filter hc)

theorem no_break_type (s : SemanticType) : '\n' ∉ s.javaType.toList ∧ '\n' ∉ s.label.toList := by
  cases s <;> decide

theorem unbroken_lines (h : t.checkNames = .ok ()) : Listing.Unbroken (lines t) := by
  have hbreak : Text.isBlank '\n' = true := by decide
  intro l hl
  simp only [lines, List.mem_append, List.mem_cons, List.not_mem_nil, or_false, List.mem_map,
    Option.mem_toList] at hl
  rcases hl with ((rfl | rfl) | ⟨f, hf, rfl⟩) | hl
  · simp [(isUnsplit_name h).blank '\n' hbreak, (isUnsplit_entityName h).blank '\n' hbreak]
  · decide
  · obtain ⟨hname, hcolumn⟩ := isUnsplit_field h hf
    obtain ⟨hjava, hlabel⟩ := no_break_type f.type
    simp [fieldLine, hname.blank '\n' hbreak, hcolumn.blank '\n' hbreak, hjava, hlabel]
  · rw [fallbackLine?] at hl
    split_ifs at hl
    obtain rfl := Option.some.inj hl
    rw [String.toList_append, List.mem_append, not_or]
    refine ⟨by decide, notMem_intercalate (by decide) ?_⟩
    rw [List.forall_mem_map]
    exact fun c hc => (isUnsplit_columnName h (List.mem_of_mem_filter hc)).blank '\n' hbreak

/-- The text of an accepted table is its lines, of which none is lost at the end. -/
theorem render_text (h : t.checkNames = .ok ()) : render t .text = Listing.render (lines t) :=
  trimEnd_join (lines t) (by simp [lines]) (endsFilled_lines h)

/-- The lines of the text are the lines that are shown, but for the last line end. -/
theorem lines_render_text (h : t.checkNames = .ok ()) :
    Listing.lines (render t .text) = lines t := by
  rw [render_text h]
  exact Listing.lines_render _ (unbroken_lines h) (by simp [lines])

end Accepted

/-- Texts are equal part by part if they are cut at a mark that is in neither first part. -/
theorem cut_inj {mark : Char} {as bs xs ys : List Char} (ha : mark ∉ as) (hb : mark ∉ bs)
    (h : as ++ mark :: xs = bs ++ mark :: ys) : as = bs ∧ xs = ys := by
  have hbefore := congrArg (List.takeWhile (· ≠ mark)) h
  rw [Members.takeWhile_upto _ _ _ ha, Members.takeWhile_upto _ _ _ hb] at hbefore
  subst hbefore
  exact ⟨rfl, (List.cons.inj (List.append_cancel_left h)).2⟩

theorem title_inj {name name' entity entity' : String} (hname : IsUnsplit name)
    (hname' : IsUnsplit name')
    (h : "📦 Table: " ++ name ++ " → entity " ++ entity =
      "📦 Table: " ++ name' ++ " → entity " ++ entity') : name = name' ∧ entity = entity' := by
  have hspace : Text.isBlank ' ' = true := by decide
  have harrow : " → entity ".toList = ' ' :: "→ entity ".toList := rfl
  have hchars := congrArg String.toList h
  simp only [String.toList_append, List.append_assoc, List.append_cancel_left_eq, harrow,
    List.cons_append] at hchars
  obtain ⟨hnames, hrest⟩ := cut_inj (hname.blank _ hspace) (hname'.blank _ hspace) hchars
  exact ⟨String.toList_inj.mp hnames, String.toList_inj.mp (List.append_cancel_left hrest)⟩

theorem no_space_javaType (s : SemanticType) : ' ' ∉ s.javaType.toList := by
  cases s <;> decide

theorem javaType_injective : Function.Injective SemanticType.javaType := by
  intro s s' h
  cases s <;> cases s' <;> first | rfl | exact absurd h (by decide)

/-- A field is told from its line, as far as its name does not tell what is not there. -/
theorem fieldLine_inj {f g : Field} (hf : IsUnsplit f.name) (hg : IsUnsplit g.name)
    (h : fieldLine f = fieldLine g) :
    f.name = g.name ∧ f.type = g.type ∧ f.columnName = g.columnName := by
  have hspace : Text.isBlank ' ' = true := by decide
  have hcolon : " : ".toList = ' ' :: ": ".toList := rfl
  have hbracket : " (".toList = ' ' :: "(".toList := rfl
  have hchars := congrArg String.toList h
  simp only [fieldLine, String.toList_append, List.append_assoc, List.append_cancel_left_eq, hcolon,
    hbracket, List.cons_append] at hchars
  obtain ⟨hnames, htypes⟩ := cut_inj (hf.blank _ hspace) (hg.blank _ hspace) hchars
  obtain ⟨hjava, hlabels⟩ := cut_inj (no_space_javaType f.type) (no_space_javaType g.type)
    (List.append_cancel_left htypes)
  have htype : f.type = g.type := javaType_injective (String.toList_inj.mp hjava)
  rw [htype] at hlabels
  simp only [List.append_cancel_left_eq, List.append_cancel_right_eq] at hlabels
  exact ⟨String.toList_inj.mp hnames, htype, String.toList_inj.mp hlabels⟩

/-- The line of a field tells all about it. -/
theorem eq_of_fieldLine {t t' : Table} (h : t.checkNames = .ok ()) (h' : t'.checkNames = .ok ())
    {f g : Field} (hf : f ∈ t.fields) (hg : g ∈ t'.fields) (heq : fieldLine f = fieldLine g) :
    f = g := by
  obtain ⟨hname, htype, hcolumn⟩ :=
    fieldLine_inj (isUnsplit_field h hf).1 (isUnsplit_field h' hg).1 heq
  obtain ⟨c, -, rfl⟩ := List.mem_map.mp hf
  obtain ⟨d, -, rfl⟩ := List.mem_map.mp hg
  have hname : c.fieldName = d.fieldName := hname
  have htype : c.semanticType = d.semanticType := htype
  rw [Field.ofColumn, Field.ofColumn, hname, htype]

theorem map_inj_of_mem {α β : Type} {k : α → β} {as bs : List α}
    (hk : ∀ a ∈ as, ∀ b ∈ bs, k a = k b → a = b) (h : as.map k = bs.map k) : as = bs := by
  induction as generalizing bs with
  | nil => exact (List.map_eq_nil_iff.mp h.symm).symm
  | cons a as ih =>
    obtain ⟨b, bs, rfl, hb, hrest⟩ := List.map_eq_cons_iff.mp h.symm
    rw [hk a (by simp) b (by simp) hb.symm,
      ih (fun a ha b hb => hk a (by simp [ha]) b (by simp [hb])) hrest.symm]

/-- The texts between commas and blanks are told from what they are joined to. -/
theorem intercalate_inj {ls ls' : List String} (hne : ls ≠ []) (hne' : ls' ≠ [])
    (h : ∀ l ∈ ls, IsUnsplit l) (h' : ∀ l ∈ ls', IsUnsplit l)
    (heq : ", ".intercalate ls = ", ".intercalate ls') : ls = ls' := by
  -- A name has no comma, so it is not the text of several.
  have hlonger (l l' next : String) (rest : List String) (hl : IsUnsplit l) :
      l ≠ ", ".intercalate (l' :: next :: rest) := by
    intro hlong
    apply hl.comma
    rw [hlong, String.intercalate_cons_cons]
    simp
  induction ls generalizing ls' with
  | nil => exact absurd rfl hne
  | cons l ls ih =>
    obtain ⟨l', ls', rfl⟩ := List.exists_cons_of_ne_nil hne'
    match ls, ls' with
    | [], [] => simpa using heq
    | [], next :: rest =>
      rw [String.intercalate_singleton] at heq
      exact absurd heq (hlonger l l' next rest (h l (by simp)))
    | next :: rest, [] =>
      rw [String.intercalate_singleton] at heq
      exact absurd heq.symm (hlonger l' l next rest (h' l' (by simp)))
    | next :: rest, next' :: rest' =>
      rw [String.intercalate_cons_cons, String.intercalate_cons_cons] at heq
      have hcomma : ", ".toList = ',' :: " ".toList := rfl
      have hchars := congrArg String.toList heq
      simp only [String.toList_append, List.append_assoc, hcomma, List.cons_append] at hchars
      obtain ⟨hl, hrest⟩ := cut_inj (h l (by simp)).comma (h' l' (by simp)).comma hchars
      have hrest := ih (by simp) (by simp) (fun l hl => h l (by simp [hl]))
        (fun l hl => h' l (by simp [hl])) (String.toList_inj.mp (List.append_cancel_left hrest))
      rw [String.toList_inj.mp hl, hrest]

/-- Two tables differ in nothing that is shown of them. -/
structure AreShownAlike (t t' : Table) : Prop where
  name : t.name = t'.name
  entityName : t.entityName = t'.entityName
  fields : t.fields = t'.fields
  fallbackNames : t.fallbackColumns.map (·.name) = t'.fallbackColumns.map (·.name)

theorem fallbackLine?_eq (t : Table) :
    fallbackLine? t =
      if t.fallbackColumns.map (·.name) = [] then none
      else some ("⚠️  Unmapped storage types defaulted to text: " ++
        ", ".intercalate (t.fallbackColumns.map (·.name))) := by
  simp [fallbackLine?]

/-- Tables that are shown alike have the same text. -/
theorem AreShownAlike.lines_eq {t t' : Table} (h : AreShownAlike t t') : lines t = lines t' := by
  rw [lines, lines, fallbackLine?_eq, fallbackLine?_eq, h.name, h.entityName, h.fields,
    h.fallbackNames]

/-- And the same JSON value. -/
theorem AreShownAlike.record_eq {t t' : Table} (h : AreShownAlike t t') :
    record t = record t' := by
  have hfallback (t : Table) : (t.fallbackColumns.map fun c => JsonValue.text c.name) =
      (t.fallbackColumns.map (·.name)).map .text := by
    rw [List.map_map]
    rfl
  rw [record, record, hfallback, hfallback, h.name, h.entityName, h.fields, h.fallbackNames]

/-- The last line tells which columns fall back. -/
theorem fallbackNames_eq_of_line {t t' : Table} (h : t.checkNames = .ok ())
    (h' : t'.checkNames = .ok ()) (heq : fallbackLine? t = fallbackLine? t') :
    t.fallbackColumns.map (·.name) = t'.fallbackColumns.map (·.name) := by
  have hunsplit {t : Table} (h : t.checkNames = .ok ()) :
      ∀ l ∈ t.fallbackColumns.map (·.name), IsUnsplit l := by
    rw [List.forall_mem_map]
    exact fun c hc => isUnsplit_columnName h (List.mem_of_mem_filter hc)
  rw [fallbackLine?_eq, fallbackLine?_eq] at heq
  split_ifs at heq with hempty hempty'
  · rw [hempty, hempty']
  · have hchars := congrArg String.toList (Option.some.inj heq)
    rw [String.toList_append, String.toList_append] at hchars
    exact intercalate_inj hempty ‹_› (hunsplit h) (hunsplit h')
      (String.toList_inj.mp (List.append_cancel_left hchars))

/-- An accepted table is told from its lines, as far as it is shown. -/
theorem areShownAlike_of_lines {t t' : Table} (h : t.checkNames = .ok ())
    (h' : t'.checkNames = .ok ()) (heq : lines t = lines t') : AreShownAlike t t' := by
  have hindented (fs : List Field) : ∀ l ∈ fs.map fieldLine, l.toList.head? = some ' ' := by
    rw [List.forall_mem_map]
    intro f hf
    simp [fieldLine]
  have hmarked (t : Table) : ∀ l ∈ (fallbackLine? t).toList, ¬ l.toList.head? = some ' ' := by
    intro l hl
    rw [Option.mem_toList, fallbackLine?] at hl
    split_ifs at hl
    obtain rfl := Option.some.inj hl
    simp
  simp only [lines, List.cons_append, List.nil_append, List.cons.injEq, true_and] at heq
  obtain ⟨htitle, hrest⟩ := heq
  obtain ⟨hname, hentity⟩ := title_inj (isUnsplit_name h) (isUnsplit_name h') htitle
  -- The lines of fields are those that begin with a blank.
  have hfilter := congrArg (List.filter fun l => decide (l.toList.head? = some ' ')) hrest
  have hparts (t : Table) : ((t.fields.map fieldLine) ++ (fallbackLine? t).toList).filter
      (fun l => decide (l.toList.head? = some ' ')) = t.fields.map fieldLine := by
    rw [List.filter_append, List.filter_eq_self.mpr (by simpa using hindented t.fields),
      List.filter_eq_nil_iff.mpr (by simpa using hmarked t), List.append_nil]
  rw [hparts, hparts] at hfilter
  have hfields : t.fields = t'.fields :=
    map_inj_of_mem (fun f hf g hg => eq_of_fieldLine h h' hf hg) hfilter
  rw [hfields, List.append_cancel_left_eq] at hrest
  have hline : fallbackLine? t = fallbackLine? t' := by
    have hhead := congrArg List.head? hrest
    simpa using hhead
  exact ⟨hname, hentity, hfields, fallbackNames_eq_of_line h h' hline⟩

/-- The JSON value of a field tells all about it. -/
theorem fieldRecord_injective : Function.Injective fieldRecord := by
  have hlabel : Function.Injective SemanticType.label := by
    intro s s' h
    cases s <;> cases s' <;> first | rfl | exact absurd h (by decide)
  intro f g h
  simp only [fieldRecord, JsonValue.record.injEq, List.cons.injEq, Prod.mk.injEq,
    JsonValue.text.injEq, true_and, and_true] at h
  obtain ⟨hname, haccessor, hcolumn, htype, -⟩ := h
  cases f
  cases g
  simp_all [hlabel.eq_iff]

/-- Every table is told from its record, as far as it is shown. -/
theorem areShownAlike_of_record {t t' : Table} (h : record t = record t') : AreShownAlike t t' := by
  simp only [record, JsonValue.record.injEq, JsonValue.list.injEq, List.cons.injEq, Prod.mk.injEq,
    JsonValue.text.injEq, true_and, and_true] at h
  obtain ⟨hname, hentity, hfields, hfallback⟩ := h
  refine ⟨hname, hentity, List.map_injective_iff.mpr fieldRecord_injective hfields, ?_⟩
  have htext : Function.Injective JsonValue.text := fun _ _ h => JsonValue.text.inj h
  apply List.map_injective_iff.mpr htext
  rw [List.map_map, List.map_map]
  exact hfallback

/-- The text tells exactly what is shown. -/
theorem render_text_eq_iff {t t' : Table} (h : t.checkNames = .ok ())
    (h' : t'.checkNames = .ok ()) : render t .text = render t' .text ↔ AreShownAlike t t' := by
  constructor
  · intro heq
    apply areShownAlike_of_lines h h'
    rw [← lines_render_text h, ← lines_render_text h', heq]
  · intro halike
    rw [render_text h, render_text h', halike.lines_eq]

/-- The JSON tells exactly the same. -/
theorem render_json_eq_iff (t t' : Table) :
    render t .json = render t' .json ↔ AreShownAlike t t' := by
  constructor
  · intro heq
    exact areShownAlike_of_record (JsonValue.pretty_injective "" heq)
  · intro halike
    rw [render, render, halike.record_eq]

/-- Two accepted tables have one text exactly if they have one JSON text, and that is so exactly if
they differ in nothing that is shown of them. The text is all of the lines that it was made of. -/
theorem forms_tell_the_same (t t' : Table) (h : t.checkNames = .ok ())
    (h' : t'.checkNames = .ok ()) :
    (render t .text = render t' .text ↔ render t .json = render t' .json) ∧
    (render t .text = render t' .text ↔ AreShownAlike t t') ∧
    String.join ((lines t).map (· ++ "\n")) = render t .text ++ "\n" := by
  refine ⟨(render_text_eq_iff h h').trans (render_json_eq_iff t t').symm,
    render_text_eq_iff h h', ?_⟩
  rw [render_text h]
  exact join_lines (lines t) (by simp [lines])

/-- Its names are made of ASCII characters once they are in upper case. -/
def dotlessTable (storageType : String) : Table :=
  Table.ofColumns "ıtem" [⟨"unit_ſize", storageType⟩]

/-- How long a text may be is not shown. -/
theorem forms_tell_the_same_dotless :
    dotlessTable "varchar(10)" ≠ dotlessTable "varchar(20)" ∧
      render (dotlessTable "varchar(10)") .text = render (dotlessTable "varchar(20)") .text ∧
      render (dotlessTable "varchar(10)") .json = render (dotlessTable "varchar(20)") .json := by
  have hchecked : ∀ storageType ∈ ["varchar(10)", "varchar(20)"],
      (dotlessTable storageType).checkNames = .ok () := by
    decide +kernel
  obtain ⟨hforms, halike, -⟩ := forms_tell_the_same (dotlessTable "varchar(10)")
    (dotlessTable "varchar(20)") (hchecked _ (by decide)) (hchecked _ (by decide))
  have hshown : AreShownAlike (dotlessTable "varchar(10)") (dotlessTable "varchar(20)") :=
    ⟨rfl, rfl, by decide +kernel, by decide +kernel⟩
  refine ⟨fun heq => ?_, halike.mpr hshown, hforms.mp (halike.mpr hshown)⟩
  have hcolumns := congrArg Table.columns heq
  exact absurd hcolumns (by decide +kernel)

end Inspection
end CrudLayer
