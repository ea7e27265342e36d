import Mathlib
import CrudLayer.Proofs.Planning

namespace CrudLayer.Config

open scoped Computability

def IsInitial (c : Char) : Prop := 'a' ≤ c ∧ c ≤ 'z' ∨ 'A' ≤ c ∧ c ≤ 'Z' ∨ c = '_'

instance (c : Char) : Decidable (IsInitial c) := inferInstanceAs (Decidable (_ ∨ _))

def oneOf (P : Char → Prop) : Language Char := {w | ∃ c, P c ∧ w = [c]}

/-- `[A-Za-z_][A-Za-z0-9_]*` -/
def segmentNames : Language Char :=
  oneOf IsInitial * (oneOf fun c => IsInitial c ∨ '0' ≤ c ∧ c ≤ '9')∗

def packageNames : Language Char := segmentNames * (oneOf (· = '.') * segmentNames)∗

theorem isInitial_iff (c : Char) : IsInitial c ↔ (c.isAlpha || c == '_') = true := by
  simp only [IsInitial, Char.isAlpha, Char.isUpper, Char.isLower, Bool.or_eq_true, Bool.and_eq_true,
    decide_eq_true_eq, beq_iff_eq, Char.le_def, ge_iff_le]
  tauto

theorem isInitial_or_digit_iff (c : Char) :
    IsInitial c ∨ '0' ≤ c ∧ c ≤ '9' ↔ (c.isAlphanum || c == '_') = true := by
  have hdigit : '0' ≤ c ∧ c ≤ '9' ↔ c.isDigit = true := by
    simp [Char.isDigit, Char.le_def]
  rw [isInitial_iff, hdigit, Char.isAlphanum]
  cases c.isAlpha <;> cases c.isDigit <;> simp

/-- A word is a repetition if all its characters are permitted. -/
theorem mem_kstar_oneOf_iff (P : Char → Prop) (w : List Char) :
    w ∈ (oneOf P)∗ ↔ ∀ c ∈ w, P c := by
  rw [Language.mem_kstar]
  constructor
  · rintro ⟨ws, rfl, hws⟩ c hc
    obtain ⟨w, hw, hcw⟩ := List.mem_flatten.mp hc
    obtain ⟨d, hd, rfl⟩ := hws w hw
    rwa [List.mem_singleton.mp hcw]
  · intro h
    refine ⟨w.map fun c => [c], by simp [← List.flatMap_def], fun y hy => ?_⟩
    obtain ⟨c, hc, rfl⟩ := List.mem_map.mp hy
    exact ⟨c, h c hc, rfl⟩

theorem cons_mem_oneOf_mul_iff (P : Char → Prop) (l : Language Char) (w : List Char) :
    w ∈ oneOf P * l ↔ ∃ c rest, w = c :: rest ∧ P c ∧ rest ∈ l := by
  rw [Language.mem_mul]
  constructor
  · rintro ⟨_, ⟨c, hc, rfl⟩, rest, hrest, rfl⟩
    exact ⟨c, rest, rfl, hc, hrest⟩
  · rintro ⟨c, rest, rfl, hc, hrest⟩
    exact ⟨[c], ⟨c, hc, rfl⟩, rest, hrest, rfl⟩

/-- The segments that pass the check are the words of the grammar. -/
theorem mem_segmentNames_iff (s : String) :
    s.toList ∈ segmentNames ↔ isPackageSegment s = true := by
  have hrest (rest : List Char) :
      rest ∈ (oneOf fun c => IsInitial c ∨ '0' ≤ c ∧ c ≤ '9')∗ ↔
        (rest.all fun c => c.isAlphanum || c == '_') = true := by
    rw [mem_kstar_oneOf_iff, List.all_eq_true]
    exact forall₂_congr fun d _ => isInitial_or_digit_iff d
  rw [segmentNames, cons_mem_oneOf_mul_iff, isPackageSegment]
  cases s.toList with
  | nil => simp
  | cons c rest =>
    dsimp only
    rw [Bool.and_eq_true, ← hrest, ← isInitial_iff]
    simp

/-- No segment has a dot in it. -/
theorem no_dot_of_mem_segmentNames (w : List Char) (h : w ∈ segmentNames) : '.' ∉ w := by
  obtain ⟨c, rest, rfl, hc, hrest⟩ := (cons_mem_oneOf_mul_iff _ _ w).mp h
  rw [mem_kstar_oneOf_iff] at hrest
  intro hdot
  rcases List.mem_cons.mp hdot with rfl | hmem
  · exact absurd hc (by decide)
  · exact absurd (hrest '.' hmem) (by decide)

theorem intercalate_mem_packageNames (first : List Char) (rest : List (List Char))
    (hfirst : first ∈ segmentNames) (hrest : ∀ s ∈ rest, s ∈ segmentNames) :
    ['.'].intercalate (first :: rest) ∈ packageNames := by
  have hjoined : ['.'].intercalate (first :: rest) = first ++ (rest.map ('.' :: ·)).flatten := by
    induction rest generalizing first with
    | nil => simp
    | cons s rest ih =>
      rw [List.intercalate_cons_cons,
        ih s (hrest s (by simp)) fun s' hs' => hrest s' (by simp [hs'])]
      simp
  rw [hjoined]
  refine Language.append_mem_mul hfirst (Language.join_mem_kstar fun y hy => ?_)
  obtain ⟨s, hs, rfl⟩ := List.mem_map.mp hy
  exact (cons_mem_oneOf_mul_iff _ _ _).mpr ⟨'.', s, rfl, rfl, hrest s hs⟩

/-- A word is a package if all that stands between its dots are segments. -/
theorem mem_packageNames_iff (w : List Char) :
    w ∈ packageNames ↔ ∀ s ∈ w.splitOn '.', s ∈ segmentNames := by
  constructor
  · intro h
    obtain ⟨first, hfirst, b, hb, rfl⟩ := Language.mem_mul.mp h
    obtain ⟨ws, rfl, hws⟩ := Language.mem_kstar.mp hb
    clear h hb
    -- By induction on the parts that begin with a dot, whatever segment comes before them.
    induction ws generalizing first with
    | nil =>
      rw [List.flatten_nil, List.append_nil,
        List.splitOn_eq_singleton (no_dot_of_mem_segmentNames first hfirst)]
      exact List.forall_mem_singleton.mpr hfirst
    | cons w ws ih =>
      obtain ⟨c, s, rfl, rfl, hs⟩ := (cons_mem_oneOf_mul_iff _ _ w).mp (hws w (by simp))
      rw [List.flatten_cons, List.cons_append,
        List.splitOn_append_cons_self_of_not_mem (no_dot_of_mem_segmentNames first hfirst),
        List.forall_mem_cons]
      exact ⟨hfirst, ih s hs fun y hy => hws y (by simp [hy])⟩
  · intro h
    obtain ⟨first, rest, hcut⟩ := List.exists_cons_of_ne_nil (List.splitOn_ne_nil '.' w)
    rw [hcut, List.forall_mem_cons] at h
    have hjoined : ['.'].intercalate (w.splitOn '.') = w := List.intercalate_splitOn '.'
    rw [← hjoined, hcut]
    exact intercalate_mem_packageNames first rest h.1 h.2

theorem forall_packageSegments_iff (package : String) (P : List Char → Prop) :
    (∀ s ∈ packageSegments package, P s.toList) ↔ ∀ w ∈ package.toList.splitOn '.', P w := by
  rw [packageSegments, List.forall_mem_map]
  simp only [String.toList_ofList]

/-- The packages that pass the check are those of the grammar. -/
theorem checkPackage_eq_ok_iff (package : String) :
    checkPackage package = .ok () ↔ package.toList ∈ packageNames := by
  rw [mem_packageNames_iff, ← forall_packageSegments_iff]
  simp only [mem_segmentNames_iff]
  constructor
  · exact isPackageSegment_of_checkPackage package
  · intro h
    have hne : package.isEmpty = false := by
      by_contra hempty
      rw [Bool.not_eq_false, String.isEmpty_iff] at hempty
      subst hempty
      exact absurd (h "" (by decide)) (by decide)
    have hnone : (packageSegments package).find? (!isPackageSegment ·) = none := by
      rw [List.find?_eq_none]
      intro s hs
      simp [h s hs]
    simp only [checkPackage, hne, Bool.false_eq_true, if_false, hnone]

/-- The fault that is reported lies in the first piece that is no segment. -/
theorem checkPackage_of_first (package : String) (hne : package ≠ "")
    (before : List (List Char)) (segment : List Char) (after : List (List Char))
    (hcut : package.toList.splitOn '.' = before ++ segment :: after)
    (hbefore : ∀ s ∈ before, s ∈ segmentNames) (hsegment : segment ∉ segmentNames) :
    checkPackage package = .error (.packageSegment package (String.ofList segment)) := by
  have hpieces : packageSegments package =
      before.map String.ofList ++ String.ofList segment :: after.map String.ofList := by
    rw [packageSegments, hcut, List.map_append, List.map_cons]
  have hiff (w : List Char) : isPackageSegment (String.ofList w) = true ↔ w ∈ segmentNames := by
    rw [← mem_segmentNames_iff, String.toList_ofList]
  have hfind : (packageSegments package).find? (!isPackageSegment ·) =
      some (String.ofList segment) := by
    rw [List.find?_eq_some_iff_append]
    refine ⟨by simp [mt (hiff segment).mp hsegment], _, _, hpieces, ?_⟩
    rw [List.forall_mem_map]
    intro w hw
    simp [(hiff w).mpr (hbefore w hw)]
  have hfilled : package.isEmpty = false := by simpa [String.isEmpty_iff] using hne
  simp only [checkPackage, hfilled, Bool.false_eq_true, if_false, hfind]

/-- A package outside the grammar has a first segment that is outside. -/
theorem exists_first_of_not_mem (w : List Char) (h : w ∉ packageNames) :
    ∃ before segment after, w.splitOn '.' = before ++ segment :: after ∧
      (∀ s ∈ before, s ∈ segmentNames) ∧ segment ∉ segmentNames := by
  classical
  have hbad : ∃ s ∈ w.splitOn '.', s ∉ segmentNames := by
    simpa [mem_packageNames_iff] using h
  obtain ⟨segment, hsegment⟩ := Option.isSome_iff_exists.mp
    ((List.find?_isSome (p := fun s => decide (s ∉ segmentNames))).mpr (by simpa using hbad))
  obtain ⟨hfault, before, after, hcut, hbefore⟩ := List.find?_eq_some_iff_append.mp hsegment
  exact ⟨before, segment, after, hcut, by simpa using hbefore, by simpa using hfault⟩

end CrudLayer.Config
