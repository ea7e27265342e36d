import Mathlib
import CrudLayer.Proofs.Spelling

/-!
From a snake_case name to its lowerCamel form and back. An underscore is put before a capital only
where a small letter stands before it, and after a word of one letter there is none: its one letter
was made a capital. So the way back restores exactly the names whose inner words are longer.
-/
namespace CrudLayer

namespace Naming

structure IsWord (w : List Char) : Prop where
  ne_nil : w ≠ []
  small : ∀ c ∈ w, c.isLower = true

instance (w : List Char) : Decidable (IsWord w) :=
  decidable_of_iff (w ≠ [] ∧ w.all Char.isLower = true)
    ⟨fun h => ⟨h.1, List.all_eq_true.mp h.2⟩, fun h => ⟨h.ne_nil, List.all_eq_true.mpr h.small⟩⟩

theorem IsWord.no_underscore {w : List Char} (h : IsWord w) : '_' ∉ w := by
  intro hmem
  exact absurd (h.small '_' hmem) (by decide)

def words (s : String) : List (List Char) := s.toList.splitOn '_'

/-- The name is made of words of small letters with one underscore between each two. -/
def IsSnake (s : String) : Prop := ∀ w ∈ words s, IsWord w

instance (s : String) : Decidable (IsSnake s) :=
  inferInstanceAs (Decidable (∀ w ∈ words s, IsWord w))

/-- The words that have both a word before them and a word after them. -/
def innerWords (s : String) : List (List Char) := (words s).tail.dropLast

def joined (ws : List (List Char)) : List Char := ws.flatMap ('_' :: ·)

/-- Words with an underscore before each that follows a word of several letters. `mark` says
whether one goes before the first. -/
def rejoined (mark : Bool) : List (List Char) → List Char
  | [] => []
  | w :: ws => (if mark then ['_'] else []) ++ w ++ rejoined (decide (1 < w.length)) ws

theorem intercalate_eq_joined (w : List Char) (ws : List (List Char)) :
    ['_'].intercalate (w :: ws) = w ++ joined ws := by
  induction ws generalizing w with
  | nil => simp [joined]
  | cons v ws ih =>
    rw [List.intercalate_cons_cons, ih v]
    simp [joined]

theorem toList_eq_joined (s : String) (w : List Char) (ws : List (List Char))
    (h : words s = w :: ws) : s.toList = w ++ joined ws := by
  rw [← intercalate_eq_joined, ← h]
  exact (List.intercalate_splitOn '_').symm

theorem camel_append (w rest : List Char) (hw : '_' ∉ w) :
    camel false (w ++ rest) = w ++ camel false rest := by
  induction w with
  | nil => rfl
  | cons c w ih =>
    have hc : c ≠ '_' := by
      rintro rfl
      simp at hw
    have hrest := ih fun h => hw (by simp [h])
    simp [camel, hc, hrest]

/-- Words with underscores before them are capitalized one by one. -/
theorem camel_joined (raise : Bool) (ws : List (List Char)) (h : ∀ w ∈ ws, '_' ∉ w) :
    camel raise (joined ws) = ws.flatMap capital := by
  induction ws generalizing raise with
  | nil => rfl
  | cons w ws ih =>
    obtain ⟨hno, hnone⟩ := List.forall_mem_cons.mp h
    cases w with
    | nil =>
      -- An empty word leaves its underscore to the next one, which is raised in any case.
      calc camel raise (joined ([] :: ws))
          = camel true (joined ws) := by simp [joined, camel]
        _ = ws.flatMap capital := ih true hnone
        _ = ([] :: ws).flatMap capital := rfl
    | cons c w =>
      rw [List.mem_cons, not_or] at hno
      calc camel raise (joined ((c :: w) :: ws))
          = Text.upper c ++ camel false (w ++ joined ws) := by
            simp [joined, camel, Ne.symm hno.1]
        _ = Text.upper c ++ (w ++ ws.flatMap capital) := by
            rw [camel_append w _ hno.2, ih false hnone]
        _ = ((c :: w) :: ws).flatMap capital := by simp [capital]

/-- The last of these characters is a small letter. Where there are none, `before` says whether a
small letter has just been passed. -/
def endsSmall (before : Bool) (w : List Char) : Bool :=
  (w.getLast?.map Char.isLower).getD before

theorem endsSmall_cons (before : Bool) (c : Char) (w : List Char) :
    endsSmall before (c :: w) = endsSmall c.isLower w := by
  cases h : w.getLast? <;> simp [endsSmall, List.getLast?_cons, h]

theorem endsSmall_of_small (w : List Char) (hw : ∀ c ∈ w, c.isLower = true) :
    endsSmall false w = !w.isEmpty := by
  cases h : w.getLast? with
  | none => simp [endsSmall, List.getLast?_eq_none_iff.mp h]
  | some c =>
    have hc := List.mem_of_getLast? h
    simp [endsSmall, h, hw c hc, List.ne_nil_of_mem hc]

/-- In a word without capitals no underscore is put. -/
theorem separate_append (before : Bool) (w rest : List Char) (hw : ∀ c ∈ w, c.isUpper = false) :
    separate before (w ++ rest) = w ++ separate (endsSmall before w) rest := by
  induction w generalizing before with
  | nil => rfl
  | cons c w ih =>
    have hc := hw c (by simp)
    have hrest := ih c.isLower fun d hd => hw d (by simp [hd])
    simp [separate, hc, hrest, endsSmall_cons]

theorem map_toLower_of_no_capital (cs : List Char) (h : ∀ c ∈ cs, c.isUpper = false) :
    cs.map Char.toLower = cs := by
  refine (List.map_congr_left fun c hc => ?_).trans (List.map_id cs)
  exact Char.toLower_eq_of_not_isUpper (by simp [h c hc])

/-- The first letter of each word stands for the underscore before it, if a small letter comes
first. -/
theorem separate_capitals (mark : Bool) (ws : List (List Char)) (h : ∀ w ∈ ws, IsWord w) :
    (separate mark (ws.flatMap capital)).map Char.toLower = rejoined mark ws := by
  induction ws generalizing mark with
  | nil => rfl
  | cons w ws ih =>
    have hw := h w (by simp)
    obtain ⟨c, w, rfl⟩ := List.exists_cons_of_ne_nil hw.ne_nil
    have hc := hw.small c (by simp)
    have hsmall : ∀ d ∈ w, d.isLower = true := fun d hd => hw.small d (by simp [hd])
    have hnone : ∀ d ∈ w, d.isUpper = false := fun d hd => not_isUpper_of_isLower d (hsmall d hd)
    have hup : c.toUpper.isUpper = true := by simp [isAlpha_of_isLower c hc]
    have hdown : c.toUpper.isLower = false := Char.isLower_toUpper_eq_false c
    have hlong : decide (1 < (c :: w).length) = !w.isEmpty := by
      cases w <;> simp
    -- The capital takes the underscore if one is due, and what follows it is small.
    have hstep : separate mark (((c :: w) :: ws).flatMap capital) =
        (if mark then ['_'] else []) ++ c.toUpper :: (w ++ separate (!w.isEmpty)
          (ws.flatMap capital)) := by
      have hrest := separate_append false w (ws.flatMap capital) hnone
      rw [endsSmall_of_small w hsmall] at hrest
      cases mark <;>
        simp [capital, Text.upper_ascii c (ascii_of_isLower c hc), separate, hup, hdown, hrest]
    rw [hstep, rejoined, hlong, ← ih (!w.isEmpty) fun v hv => h v (by simp [hv])]
    cases mark <;>
      simp [map_toLower_of_no_capital w hnone, toLower_of_isLower c hc,
        show Char.toLower '_' = '_' from rfl]

/-- An underscore comes back before every word exactly if all words before the last have two
letters. -/
theorem rejoined_eq_joined_iff (ws : List (List Char)) (h : ∀ w ∈ ws, IsWord w) :
    rejoined true ws = joined ws ↔ ∀ w ∈ ws.dropLast, 2 ≤ w.length := by
  induction ws with
  | nil => simp [rejoined, joined]
  | cons w ws ih =>
    have hcancel : rejoined true (w :: ws) = joined (w :: ws) ↔
        rejoined (decide (1 < w.length)) ws = joined ws := by
      simp [rejoined, joined]
    rw [hcancel]
    cases ws with
    | nil => simp [rejoined, joined]
    | cons v ws =>
      -- The underscore after this word is kept if the word ends in a small letter.
      by_cases hlong : 1 < w.length
      · simp only [hlong, decide_true, ih fun u hu => h u (by simp [hu]), List.dropLast_cons_cons,
          List.forall_mem_cons]
        exact ⟨fun hall => ⟨hlong, hall⟩, fun hall => hall.2⟩
      · -- Without its underscore the next word begins with a small letter.
        have hv := h v (by simp)
        obtain ⟨c, v, rfl⟩ := List.exists_cons_of_ne_nil hv.ne_nil
        have hc : c ≠ '_' := by
          rintro rfl
          exact hv.no_underscore (by simp)
        simp only [hlong, decide_false, List.dropLast_cons_cons, List.forall_mem_cons]
        refine ⟨fun heq => ?_, fun hall => absurd hall.1 hlong⟩
        simp [rejoined, joined, hc] at heq

theorem ascii_of_mem_separate (afterSmall : Bool) (cs : List Char) (h : ∀ c ∈ cs, c.toNat < 0x80) :
    ∀ c ∈ separate afterSmall cs, c.toNat < 0x80 := by
  induction cs generalizing afterSmall with
  | nil => simp [separate]
  | cons d cs ih =>
    have hd := h d (by simp)
    have hrest := ih d.isLower fun c hc => h c (by simp [hc])
    intro c hc
    unfold separate at hc
    split at hc
    · rcases List.mem_cons.mp hc with rfl | hc
      · decide
      · rcases List.mem_cons.mp hc with rfl | hc
        · exact hd
        · exact hrest c hc
    · rcases List.mem_cons.mp hc with rfl | hc
      · exact hd
      · exact hrest c hc

theorem forall_mem_camel (P : Char → Prop) (hP : ∀ c, P c → ∀ d ∈ Text.upper c, P d) (raise : Bool)
    (cs : List Char) (h : ∀ c ∈ cs, P c) : ∀ c ∈ camel raise cs, P c := by
  induction cs generalizing raise with
  | nil => exact h
  | cons c cs ih =>
    obtain ⟨hc, hcs⟩ := List.forall_mem_cons.mp h
    unfold camel
    split
    · exact ih true hcs
    · split
      · exact List.forall_mem_append.mpr ⟨hP c hc, ih false hcs⟩
      · exact List.forall_mem_cons.mpr ⟨hc, ih false hcs⟩

theorem isAscii_snakeToCamel (s : String) (h : Text.IsAscii s) :
    Text.IsAscii (snakeToCamel s) := by
  rw [Text.IsAscii, snakeToCamel, String.toList_ofList]
  refine forall_mem_camel _ (fun c hc d hd => ?_) false s.toList h
  rw [Text.upper_ascii c hc, List.mem_singleton] at hd
  exact hd ▸ ascii_toUpper c hc

/-- Of an ASCII name, capitals are made small one by one. -/
theorem camelToSnake_ascii (s : String) (h : Text.IsAscii s) :
    camelToSnake s = String.ofList ((separate false s.toList).map Char.toLower) := by
  rw [camelToSnake, Text.lowercase, String.toList_ofList,
    Text.lowerAfter_ascii [] _ (ascii_of_mem_separate false _ h)]

/-- What stands before the first underscore stays as it is, and each word after it is raised. -/
theorem toList_snakeToCamel (s : String) (w : List Char) (ws : List (List Char))
    (h : words s = w :: ws) : (snakeToCamel s).toList = w ++ ws.flatMap capital := by
  have hnone : ∀ v ∈ w :: ws, '_' ∉ v := by
    rw [← h]
    exact Path.not_mem_of_mem_splitOn '_' s.toList
  rw [snakeToCamel, String.toList_ofList, toList_eq_joined s w ws h,
    camel_append w _ (hnone w (by simp)),
    camel_joined false ws fun v hv => hnone v (by simp [hv])]

/-- What becomes of a snake_case name on the way there and back. -/
theorem camelToSnake_snakeToCamel (s : String) (hs : IsSnake s) (w : List Char)
    (ws : List (List Char)) (h : words s = w :: ws) :
    camelToSnake (snakeToCamel s) = String.ofList (w ++ rejoined true ws) := by
  have hw : IsWord w := hs w (by simp [h])
  have hws : ∀ v ∈ ws, IsWord v := fun v hv => hs v (by simp [h, hv])
  have hcamel := toList_snakeToCamel s w ws h
  have hascii : Text.IsAscii s := by
    intro c hc
    rw [toList_eq_joined s w ws h] at hc
    rcases List.mem_append.mp hc with hc | hc
    · exact ascii_of_isLower c (hw.small c hc)
    · obtain ⟨v, hv, hc⟩ := List.mem_flatMap.mp hc
      rcases List.mem_cons.mp hc with rfl | hc
      · decide
      · exact ascii_of_isLower c ((hws v hv).small c hc)
  have hnone : ∀ c ∈ w, c.isUpper = false :=
    fun c hc => not_isUpper_of_isLower c (hw.small c hc)
  -- The first word is of small letters, so the capital after it takes an underscore again.
  have hmark : endsSmall false w = true := by simp [endsSmall_of_small w hw.small, hw.ne_nil]
  rw [camelToSnake_ascii _ (isAscii_snakeToCamel s hascii), hcamel, separate_append false w _ hnone,
    List.map_append, map_toLower_of_no_capital w hnone, hmark, separate_capitals true ws hws]

/-- A snake_case name is restored exactly if each of its inner words has more than one letter. -/
theorem restored_iff (s : String) (hs : IsSnake s) :
    camelToSnake (snakeToCamel s) = s ↔ ∀ w ∈ innerWords s, 2 ≤ w.length := by
  obtain ⟨w, ws, h⟩ := List.exists_cons_of_ne_nil (List.splitOn_ne_nil '_' s.toList)
  have hws : ∀ v ∈ ws, IsWord v := fun v hv => hs v (by
    rw [words, h]
    exact List.mem_cons_of_mem w hv)
  have htext : String.ofList (w ++ rejoined true ws) = s ↔ rejoined true ws = joined ws := by
    rw [← String.toList_inj, String.toList_ofList, toList_eq_joined s w ws h,
      List.append_cancel_left_eq]
  have hinner : innerWords s = ws.dropLast := by simp [innerWords, words, h]
  rw [camelToSnake_snakeToCamel s hs w ws h, htext, hinner, rejoined_eq_joined_iff ws hws]

end Naming
end CrudLayer
