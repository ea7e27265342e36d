import Mathlib
import CrudLayer.Path

namespace CrudLayer.Path

/-- A segment that goes down to a name. -/
structure IsName (s : String) : Prop where
  no_slash : '/' ∉ s.toList
  ne_empty : s ≠ ""
  ne_dot : s ≠ "."
  ne_dots : s ≠ ".."

theorem IsName.not_idle {s : String} (h : IsName s) : isIdle s = false := by
  simp [isIdle, h.ne_empty, h.ne_dot]

theorem IsName.componentOf {s : String} (h : IsName s) : componentOf s = .name s := by
  simp [Path.componentOf, h.ne_dots]

theorem segments_ne_nil (p : Path) : p.segments ≠ [] := by
  simp [segments]

theorem not_mem_of_mem_splitOn {α : Type*} [BEq α] [LawfulBEq α] (x : α) (xs piece : List α)
    (h : piece ∈ xs.splitOn x) : x ∉ piece := by
  induction xs generalizing piece with
  | nil => simp_all
  | cons a xs ih =>
    rw [List.splitOn_cons_eq_if_modifyHead] at h
    by_cases ha : a = x
    · simp only [ha, beq_self_eq_true, if_true, List.mem_cons] at h
      rcases h with rfl | h
      · simp
      · exact ih piece h
    · have hb : (a == x) = false := by simpa using ha
      obtain ⟨first, rest, hs⟩ := List.exists_cons_of_ne_nil (List.splitOn_ne_nil x xs)
      simp only [hb, Bool.false_eq_true, if_false, hs, List.modifyHead_cons, List.mem_cons] at h
      rcases h with rfl | h
      · have hf : x ∉ first := ih first (by simp [hs])
        simp [hf, Ne.symm ha]
      · exact ih piece (by simp [hs, h])

/-- What is set together with a separator comes from a piece, or is the separator. -/
theorem eq_or_mem_of_mem_intercalate {α : Type*} (x a : α) (pieces : List (List α))
    (h : a ∈ [x].intercalate pieces) : a = x ∨ ∃ piece ∈ pieces, a ∈ piece := by
  induction pieces with
  | nil => simp at h
  | cons piece pieces ih =>
    cases pieces with
    | nil => exact Or.inr ⟨piece, by simp, by simpa using h⟩
    | cons next pieces =>
      rw [List.intercalate_cons_cons, List.mem_append, List.mem_append] at h
      rcases h with (h | h) | h
      · exact Or.inr ⟨piece, by simp, h⟩
      · exact Or.inl (List.mem_singleton.mp h)
      · apply (ih h).imp_right
        rintro ⟨found, hfound, ha⟩
        exact ⟨found, List.mem_cons_of_mem piece hfound, ha⟩

theorem no_slash_of_mem_segments (p : Path) (s : String) (h : s ∈ p.segments) :
    '/' ∉ s.toList := by
  obtain ⟨piece, hp, rfl⟩ := List.mem_map.mp h
  simpa using not_mem_of_mem_splitOn '/' _ piece hp

/-- A path is told by its segments. -/
theorem ofSegments_segments (p : Path) : ofSegments p.segments = p := by
  have ht : ("/".intercalate p.segments).toList = p.text.toList := by
    simp [segments, Function.comp_def]
  exact congrArg Path.mk (String.toList_injective ht)

/-- Segments without slashes come back from the path that they make. -/
theorem segments_ofSegments (ss : List String) (hs : ∀ s ∈ ss, '/' ∉ s.toList) (hne : ss ≠ []) :
    (ofSegments ss).segments = ss := by
  have hp : ∀ l ∈ ss.map String.toList, '/' ∉ l := by
    intro l hl
    obtain ⟨s, hm, rfl⟩ := List.mem_map.mp hl
    exact hs s hm
  simp only [segments, ofSegments, String.toList_intercalate]
  rw [show "/".toList = ['/'] from rfl, List.splitOn_intercalate '/' hp (by simpa using hne)]
  simp

/-- A path ends in a slash, or is empty, exactly if its last segment is empty. -/
theorem ends_open_iff (p : Path) :
    (p.isEmpty || p.text.toList.getLast? == some '/') = true ↔
      p.segments.getLast? = some "" := by
  obtain ⟨front, last, hs⟩ : ∃ front last, p.segments = front ++ [last] :=
    ⟨_, _, (List.dropLast_append_getLast p.segments_ne_nil).symm⟩
  have hlast : '/' ∉ last.toList := no_slash_of_mem_segments p last (by simp [hs])
  have htext : p.text = "/".intercalate (front ++ [last]) := by
    rw [← hs]
    exact congrArg Path.text (ofSegments_segments p).symm
  -- No segment has a slash, so one at the end of the text is after the last but an empty one.
  have hend : p.text.toList.getLast? = some '/' → last = "" := by
    intro h
    by_contra hne
    have hl : last.toList ≠ [] := by simpa using hne
    have hg : p.text.toList.getLast? = last.toList.getLast? := by
      by_cases hf : front = []
      · simp [htext, hf]
      · rw [htext, String.intercalate_append_of_ne_nil hf (by simp)]
        simp [List.getLast?_append, List.getLast?_cons, List.getLast?_eq_some_getLast hl]
    rw [hg] at h
    exact hlast (List.mem_of_getLast? h)
  simp only [hs, List.getLast?_concat, Option.some.injEq, Bool.or_eq_true, beq_iff_eq, isEmpty]
  constructor
  · rintro (h | h)
    · have hnil : p.text = "" := by simpa using h
      rw [htext] at hnil
      by_cases hf : front = []
      · simpa [hf] using hnil
      · rw [String.intercalate_append_of_ne_nil hf (by simp)] at hnil
        simp at hnil
    · exact hend h
  · rintro rfl
    by_cases hf : front = []
    · exact Or.inl (by simp [htext, hf])
    · refine Or.inr ?_
      rw [htext, String.intercalate_append_of_ne_nil hf (by simp)]
      simp

/-- The segments that stay when others are set after them: all but an empty last one. -/
def stem (p : Path) : List String :=
  if p.segments.getLast? = some "" then p.segments.dropLast else p.segments

theorem no_slash_of_mem_stem (p : Path) (s : String) (h : s ∈ p.stem) : '/' ∉ s.toList := by
  apply no_slash_of_mem_segments p s
  unfold stem at h
  split at h
  · exact List.mem_of_mem_dropLast h
  · exact h

theorem stem_ofSegments (ss : List String) (hs : ∀ s ∈ ss, '/' ∉ s.toList) (hne : ss ≠ [])
    (hlast : ss.getLast? ≠ some "") : (ofSegments ss).stem = ss := by
  simp [stem, segments_ofSegments ss hs hne, hlast]

/-- Joining a path of segments that does not start from the root sets its segments after those of
the stem. -/
theorem join_ofSegments (p : Path) (ss : List String) (hs : ∀ s ∈ ss, '/' ∉ s.toList)
    (hhead : ∃ s rest, ss = s :: rest ∧ s ≠ "") :
    p.join (ofSegments ss) = ofSegments (p.stem ++ ss) := by
  obtain ⟨s, rest, rfl, hne⟩ := hhead
  -- The first segment is a name, so what is joined is not absolute.
  have habs : (ofSegments (s :: rest)).isAbsolute = false := by
    obtain ⟨c, cs, hc⟩ := List.exists_cons_of_ne_nil (l := s.toList) (by simpa using hne)
    have hslash : c ≠ '/' := fun h => hs s (by simp) (by simp [hc, h])
    cases rest <;> simp [isAbsolute, ofSegments, hc, hslash]
  have htext : p.text = "/".intercalate p.segments :=
    congrArg Path.text (ofSegments_segments p).symm
  simp only [join, habs, Bool.false_eq_true, if_false]
  by_cases hend : p.segments.getLast? = some ""
  · rw [if_pos ((ends_open_iff p).mpr hend)]
    -- The path ends in a slash already, which the stem leaves out.
    have hsplit : p.segments = p.segments.dropLast ++ [""] :=
      (List.dropLast_append_getLast? _ hend).symm
    simp only [stem, hend, if_true, ofSegments, Path.mk.injEq]
    rw [htext, hsplit]
    by_cases hf : p.segments.dropLast = []
    · simp [hf]
    · rw [List.dropLast_concat, String.intercalate_append_of_ne_nil hf (by simp),
        String.intercalate_append_of_ne_nil hf (by simp)]
      simp
  · rw [if_neg (fun h => hend ((ends_open_iff p).mp h))]
    simp only [stem, hend, if_false, ofSegments, Path.mk.injEq]
    rw [String.intercalate_append_of_ne_nil p.segments_ne_nil (by simp), ← htext]

/-- The path that leads down from another by names. -/
def down (p : Path) (names : List String) : Path := names.foldl (fun p name => p.join ⟨name⟩) p

/-- Going down in two steps is going down in one. -/
theorem down_append (p : Path) (xs ys : List String) : p.down (xs ++ ys) = (p.down xs).down ys := by
  simp [down]

theorem join_name (p : Path) (n : String) (h : IsName n) :
    p.join ⟨n⟩ = ofSegments (p.stem ++ [n]) := by
  have hn : (⟨n⟩ : Path) = ofSegments [n] := by simp [ofSegments]
  rw [hn]
  exact join_ofSegments p [n] (by simpa using h.no_slash) ⟨n, [], rfl, h.ne_empty⟩

/-- The text of a path that leads down to a name is the same up to that name, whatever it is. -/
theorem text_down_name (p : Path) :
    ∃ slash, ∀ n, IsName n → (p.down [n]).text = p.text ++ slash ++ n := by
  have hrel : ∀ n, IsName n → (⟨n⟩ : Path).isAbsolute = false := by
    intro n hn
    have hhead : n.toList.head? ≠ some '/' := fun h => hn.no_slash (List.mem_of_mem_head? h)
    simpa [isAbsolute] using hhead
  by_cases hend : (p.isEmpty || p.text.toList.getLast? == some '/') = true
  · refine ⟨"", fun n hn => ?_⟩
    show (p.join ⟨n⟩).text = _
    rw [join, hrel n hn, hend, String.append_empty]
    rfl
  · refine ⟨"/", fun n hn => ?_⟩
    show (p.join ⟨n⟩).text = _
    rw [join, hrel n hn, if_neg hend]
    rfl

/-- A path that leads down has the stem of the other and then the names. -/
theorem down_eq_ofSegments (p : Path) (names : List String) (hn : ∀ n ∈ names, IsName n)
    (hne : names ≠ []) : p.down names = ofSegments (p.stem ++ names) := by
  induction names generalizing p with
  | nil => exact absurd rfl hne
  | cons n rest ih =>
    have hname : IsName n := hn n (by simp)
    -- A name leaves no open end, so the stem has it as its last segment.
    have hstem : (p.join ⟨n⟩).stem = p.stem ++ [n] := by
      rw [join_name p n hname]
      apply stem_ofSegments
      · intro s hs
        rcases List.mem_append.mp hs with hs | hs
        · exact no_slash_of_mem_stem p s hs
        · exact List.mem_singleton.mp hs ▸ hname.no_slash
      · simp
      · simpa [List.getLast?_append] using hname.ne_empty
    by_cases hr : rest = []
    · subst hr
      exact join_name p n hname
    · have hrest := ih (p.join ⟨n⟩) (fun m hm => hn m (by simp [hm])) hr
      rw [hstem, List.append_assoc] at hrest
      exact hrest

def lead : List String → Anchor × List String
  | [] => (.relative, [])
  | s :: rest =>
    if s = "" then (.root, rest) else if s = "." then (.current, rest) else (.relative, s :: rest)

theorem anchored_append_names (xs names : List String) (hn : ∀ n ∈ names, IsName n)
    (hne : names ≠ []) : anchored (xs ++ names) = ((lead xs).1, (lead xs).2 ++ names) := by
  cases xs with
  | nil =>
    obtain ⟨n, rest, rfl⟩ := List.exists_cons_of_ne_nil hne
    have h : IsName n := hn n (by simp)
    simp [anchored, lead, h.ne_empty, h.ne_dot]
  | cons s rest =>
    by_cases h1 : s = ""
    · simp [anchored, lead, h1, hne]
    · by_cases h2 : s = "." <;> simp [anchored, lead, h1, h2]

theorem anchored_segments_down (p : Path) (names : List String) (hn : ∀ n ∈ names, IsName n)
    (hne : names ≠ []) :
    anchored (p.down names).segments = ((lead p.stem).1, (lead p.stem).2 ++ names) := by
  have hs : ∀ s ∈ p.stem ++ names, '/' ∉ s.toList := by
    intro s hs
    rcases List.mem_append.mp hs with hs | hs
    · exact no_slash_of_mem_stem p s hs
    · exact (hn s hs).no_slash
  rw [down_eq_ofSegments p names hn hne, segments_ofSegments _ hs (by simp [hne]),
    anchored_append_names p.stem names hn hne]

theorem anchor_down (p : Path) (names : List String) (hn : ∀ n ∈ names, IsName n)
    (hne : names ≠ []) : (p.down names).anchor = (lead p.stem).1 :=
  congrArg (·.1) (anchored_segments_down p names hn hne)

/-- After the start come the segments of the stem and then the names. -/
theorem body_down (p : Path) (names : List String) (hn : ∀ n ∈ names, IsName n)
    (hne : names ≠ []) : (p.down names).body = (lead p.stem).2 ++ names :=
  congrArg (·.2) (anchored_segments_down p names hn hne)

/-- Only an empty segment at the end tells a path from its stem. -/
theorem segments_eq_stem (p : Path) :
    p.segments = p.stem ++ [""] ∨ p.segments = p.stem ∧ p.segments.getLast? ≠ some "" := by
  unfold stem
  by_cases h : p.segments.getLast? = some ""
  · left
    rw [if_pos h]
    exact (List.dropLast_append_getLast? _ h).symm
  · right
    rw [if_neg h]
    exact ⟨rfl, h⟩

/-- The empty last segment that the stem leaves out is the only one in which it differs from what
follows the start of the path. -/
theorem anchored_segments (p : Path) :
    p.anchor = (lead p.stem).1 ∧
      (p.body = (lead p.stem).2 ∨ p.body = (lead p.stem).2 ++ [""]) := by
  unfold anchor body
  rcases p.segments_eq_stem with h | ⟨h, hlast⟩
  · rw [h]
    cases p.stem with
    | nil => simp [anchored, lead]
    | cons s rest =>
      by_cases h1 : s = ""
      · simp [anchored, lead, h1]
      · by_cases h2 : s = "." <;> simp [anchored, lead, h1, h2]
  · rw [h]
    cases hs : p.stem with
    | nil => exact absurd (h.trans hs) p.segments_ne_nil
    | cons s rest =>
      by_cases h1 : s = ""
      · -- An empty segment alone would be the open end, which the stem has left out.
        have hr : rest ≠ [] := by
          rintro rfl
          exact hlast (by simp [h, hs, h1])
        simp [anchored, lead, h1, hr]
      · by_cases h2 : s = "." <;> simp [anchored, lead, h1, h2]

/-- The components of a path are told by its stem. -/
theorem components_eq_lead (p : Path) :
    p.components = (lead p.stem).1.components ++
      ((lead p.stem).2.filter (!isIdle ·)).map componentOf := by
  obtain ⟨ha, hb⟩ := anchored_segments p
  rcases hb with hb | hb <;> simp [components, ha, hb, isIdle]

/-- The components of a path that leads down by names are those of the path it starts from, and
then the names. -/
theorem components_down (p : Path) (names : List String) (hn : ∀ n ∈ names, IsName n) :
    (p.down names).components = p.components ++ names.map Component.name := by
  by_cases hne : names = []
  · simp [hne, down]
  · have hidle : names.filter (!isIdle ·) = names := by
      rw [List.filter_eq_self]
      intro n h
      simp [(hn n h).not_idle]
    have hcomp : names.map componentOf = names.map Component.name :=
      List.map_congr_left fun n h => (hn n h).componentOf
    rw [components, anchor_down p names hn hne, body_down p names hn hne, components_eq_lead p]
    simp only [List.filter_append, hidle, List.map_append, hcomp, List.append_assoc]

theorem isEmpty_down (p : Path) (names : List String) (hn : ∀ n ∈ names, IsName n)
    (hne : names ≠ []) : (p.down names).isEmpty = false := by
  by_contra hempty
  have htext : (p.down names).text = "" := by simpa [Path.isEmpty] using hempty
  have hnone : (⟨""⟩ : Path).body = [""] := by decide
  have hbody := body_down p names hn hne
  rw [show p.down names = ⟨""⟩ from congrArg Path.mk htext, hnone] at hbody
  obtain ⟨n, hmem⟩ := List.exists_mem_of_ne_nil _ hne
  have hlast : n ∈ [""] := hbody ▸ List.mem_append_right _ hmem
  exact (hn n hmem).ne_empty (List.mem_singleton.mp hlast)

theorem build_down (p : Path) (names : List String) (hn : ∀ n ∈ names, IsName n)
    (hne : names ≠ []) :
    build (p.down names).anchor (p.down names).body.reverse = p.down names := by
  obtain ⟨front, last, rfl⟩ : ∃ front last, names = front ++ [last] :=
    ⟨_, _, (List.dropLast_append_getLast hne).symm⟩
  rw [anchor_down p _ hn hne, body_down p _ hn hne, down_eq_ofSegments p _ hn hne]
  cases hp : p.stem with
  | nil => simp [lead, build]
  | cons s rest =>
    by_cases h1 : s = ""
    · simp [lead, h1, build]
    · by_cases h2 : s = "." <;> simp [lead, h1, h2, build]

/-- A name that ends a path is its file name, and the path above it is its parent. -/
theorem parents_down_concat (p : Path) (names : List String) (n : String)
    (hn : ∀ m ∈ names ++ [n], IsName m) (hne : names ≠ []) :
    (p.down (names ++ [n])).parents = p.down names :: (p.down names).parents := by
  have hnames : ∀ m ∈ names, IsName m := fun m hm => hn m (by simp [hm])
  have hlast : IsName n := hn n (by simp)
  have hbuild := build_down p names hnames hne
  rw [anchor_down p _ hnames hne, body_down p _ hnames hne] at hbuild
  obtain ⟨front, last, rfl⟩ : ∃ front last, names = front ++ [last] :=
    ⟨_, _, (List.dropLast_append_getLast hne).symm⟩
  have hidle : isIdle last = false := (hnames last (by simp)).not_idle
  rw [parents, parents, anchor_down p _ hn (by simp), body_down p _ hn (by simp),
    anchor_down p _ hnames hne, body_down p _ hnames hne]
  rw [← List.append_assoc, List.reverse_append]
  simp only [List.reverse_singleton, List.singleton_append, above, hlast.not_idle,
    Bool.false_eq_true, if_false, List.cons.injEq, and_true]
  rw [← hbuild]
  simp [hidle]

/-- A path that leads down ends in the last of the names. -/
theorem fileName?_down_concat (p : Path) (names : List String) (n : String)
    (hn : ∀ m ∈ names ++ [n], IsName m) : (p.down (names ++ [n])).fileName? = some n := by
  have hlast : IsName n := hn n (by simp)
  rw [fileName?, body_down p _ hn (by simp)]
  simp [hlast.not_idle, hlast.ne_dots]

/-- Only the last name is replaced. -/
theorem withFileName_down_concat (p : Path) (names : List String) (n n' : String)
    (hn : ∀ m ∈ names ++ [n], IsName m) (hne : names ≠ []) :
    (p.down (names ++ [n])).withFileName n' = p.down (names ++ [n']) := by
  have hp : (p.down (names ++ [n])).parent? = some (p.down names) := by
    rw [parent?, parents_down_concat p names n hn hne, List.head?_cons]
  simp only [withFileName, fileName?_down_concat p names n hn, hp]
  rw [down_append]
  rfl

theorem no_slash_of_mem_body (p : Path) (s : String) (h : s ∈ p.body) : '/' ∉ s.toList := by
  apply no_slash_of_mem_segments p s
  obtain ⟨first, rest, hs⟩ := List.exists_cons_of_ne_nil p.segments_ne_nil
  rw [body, hs, anchored] at h
  rw [hs]
  split_ifs at h
  · exact List.mem_cons_of_mem first h
  · exact List.mem_cons_of_mem first h
  · exact h

/-- A path that is built from a start and some of the segments of another starts where that one
does, and goes the way of these segments. -/
theorem anchored_build (p : Path) (reversed : List String) (h : reversed.reverse <+: p.body) :
    (build p.anchor reversed).anchor = p.anchor ∧
      (reversed = [] ∧ (build p.anchor reversed).body = [""] ∨
        (build p.anchor reversed).body = reversed.reverse) := by
  have hslash : ∀ s ∈ reversed.reverse, '/' ∉ s.toList := fun s hs =>
    no_slash_of_mem_body p s (h.subset hs)
  cases ha : p.anchor with
  | root =>
    cases reversed with
    | nil => exact ⟨by decide, Or.inl ⟨rfl, by decide⟩⟩
    | cons s rest =>
      have hsegs := segments_ofSegments ("" :: (s :: rest).reverse)
        (by simpa using hslash) (by simp)
      simp only [build, anchor, body, hsegs]
      simp [anchored]
  | current =>
    have hsegs := segments_ofSegments ("." :: reversed.reverse)
      (by simpa using hslash) (by simp)
    simp only [build, anchor, body, hsegs]
    simp [anchored]
  | relative =>
    cases hr : reversed.reverse with
    | nil =>
      rw [build, hr]
      exact ⟨by decide, Or.inl ⟨List.reverse_eq_nil_iff.mp hr, by decide⟩⟩
    | cons s rest =>
      rw [hr] at h hslash
      have hsegs := segments_ofSegments (s :: rest) hslash (by simp)
      -- The segments of the path itself begin with the same one, and it is no start.
      obtain ⟨t, ht⟩ := h
      obtain ⟨first, others, hs⟩ := List.exists_cons_of_ne_nil p.segments_ne_nil
      rw [body, hs] at ht
      rw [anchor, hs] at ha
      simp only [anchored] at ha ht
      by_cases h1 : first = "" ∧ others ≠ []
      · simp [h1] at ha
      by_cases h2 : first = "."
      · simp [h2] at ha
      rw [if_neg h1, if_neg h2] at ht
      obtain ⟨rfl, rfl⟩ := List.cons.inj ht
      have h1' : ¬ (s = "" ∧ rest ≠ []) := by
        rintro ⟨rfl, hrest⟩
        exact h1 ⟨rfl, by simp [hrest]⟩
      simp only [build, hr, anchor, body, hsegs, anchored, if_neg h1', if_neg h2]
      simp

/-- The paths above another start where it does and go a part of its way. -/
theorem of_mem_parents (p q : Path) (h : q ∈ p.parents) :
    (q.anchor = .root ↔ p.anchor = .root) ∧ (q.body = [""] ∨ q.body <+: p.body) := by
  -- By induction on the segments from the last one on, as `above` takes them away.
  have key : ∀ reversed : List String, reversed.reverse <+: p.body →
      q ∈ above p.anchor reversed →
        (q.anchor = .root ↔ p.anchor = .root) ∧ (q.body = [""] ∨ q.body <+: p.body) := by
    intro reversed
    induction reversed with
    | nil =>
      intro _ hq
      cases ha : p.anchor with
      | current =>
        simp only [ha, above, if_true, List.mem_singleton] at hq
        rw [hq]
        exact ⟨by decide, Or.inl (by decide)⟩
      | root => simp [ha, above] at hq
      | relative => simp [ha, above] at hq
    | cons s rest ih =>
      intro hpre hq
      have hrest : rest.reverse <+: p.body :=
        (List.reverse_prefix.mpr (List.suffix_cons s rest)).trans hpre
      rw [above] at hq
      by_cases hidle : isIdle s = true
      · rw [if_pos hidle] at hq
        exact ih hrest hq
      · rw [if_neg hidle, List.mem_cons] at hq
        rcases hq with rfl | hq
        · have hdrop : (rest.dropWhile isIdle).reverse <+: p.body :=
            (List.reverse_prefix.mpr (List.dropWhile_suffix _)).trans hrest
          obtain ⟨hanchor, hbody⟩ := anchored_build p _ hdrop
          refine ⟨by rw [hanchor], hbody.imp And.right fun hb => ?_⟩
          rw [hb]
          exact hdrop
        · exact ih hrest hq
  exact key p.body.reverse (by simp) h

theorem above_dropWhile (a : Anchor) (reversed : List String) :
    above a (reversed.dropWhile isIdle) = above a reversed := by
  induction reversed with
  | nil => rfl
  | cons s rest ih =>
    by_cases hidle : isIdle s = true
    · rw [List.dropWhile_cons_of_pos hidle, above, if_pos hidle, ih]
    · rw [List.dropWhile_cons_of_neg hidle]

/-- The paths above a part of a path are those above the path from there on. -/
theorem parents_build (p : Path) (reversed : List String) (h : reversed.reverse <+: p.body) :
    (build p.anchor reversed).parents = above p.anchor reversed := by
  obtain ⟨hanchor, ⟨rfl, hbody⟩ | hbody⟩ := anchored_build p reversed h
  · rw [parents, hanchor, hbody]
    rfl
  · rw [parents, hanchor, hbody, List.reverse_reverse]

/-- The paths above a path are the nearest of them and those above that one. -/
theorem parents_eq_cons (p q : Path) (h : p.parent? = some q) : p.parents = q :: q.parents := by
  have key : ∀ reversed : List String, reversed.reverse <+: p.body →
      (above p.anchor reversed).head? = some q → above p.anchor reversed = q :: q.parents := by
    intro reversed
    induction reversed with
    | nil =>
      -- Above a lone start there is at most the empty path, and nothing is above that.
      intro _ hq
      by_cases ha : p.anchor = .current
      · simp only [above, ha, if_true, List.head?_cons, Option.some.injEq] at hq ⊢
        rw [← hq]
        decide
      · simp [above, ha] at hq
    | cons s rest ih =>
      intro hpre hq
      have hrest : rest.reverse <+: p.body :=
        (List.reverse_prefix.mpr (List.suffix_cons s rest)).trans hpre
      rw [above] at hq ⊢
      by_cases hidle : isIdle s = true
      · rw [if_pos hidle] at hq ⊢
        exact ih hrest hq
      · rw [if_neg hidle, List.head?_cons, Option.some.injEq] at hq
        have hdrop := (List.reverse_prefix.mpr (List.dropWhile_suffix isIdle)).trans hrest
        rw [if_neg hidle, ← hq, parents_build p _ hdrop, above_dropWhile]
  exact key p.body.reverse (by simp) h

end CrudLayer.Path
