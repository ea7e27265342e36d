import Mathlib
import CrudLayer.Proofs.Declarations
import CrudLayer.Proofs.Filling

namespace CrudLayer

namespace Listing

/-- In a text, these characters stay as they are, and none of them comes in for another. -/
def Spares (σ : Char → List Char) (p : Char → Bool) (cs : List Char) : Prop :=
  ∀ c ∈ cs, (p c = true → σ c = [c]) ∧ (p c = false → ∀ d ∈ σ c, p d = false)

section Cuts

variable {σ : Char → List Char} {p : Char → Bool}

theorem Spares.tail {c : Char} {cs : List Char} (h : Spares σ p (c :: cs)) : Spares σ p cs :=
  fun d hd => h d (by simp [hd])

theorem splitOnP_append_of_none (as bs : List Char) (h : ∀ a ∈ as, p a = false) :
    (as ++ bs).splitOnP p = (bs.splitOnP p).modifyHead (as ++ ·) := by
  obtain ⟨w, ws, hws⟩ := List.exists_cons_of_ne_nil (List.splitOnP_ne_nil p bs)
  rw [hws]
  induction as with
  | nil => exact hws
  | cons a as ih =>
    have ha := h a (by simp)
    rw [List.cons_append, List.splitOnP_cons_eq_if_modifyHead, ih fun d hd => h d (by simp [hd])]
    simp [ha]

/-- A text is cut at the same places after its characters are replaced. -/
theorem splitOnP_flatMap (cs : List Char) (h : Spares σ p cs) :
    (cs.flatMap σ).splitOnP p = (cs.splitOnP p).map (·.flatMap σ) := by
  induction cs with
  | nil => simp
  | cons c cs ih =>
    have hrest := ih h.tail
    obtain ⟨hkeep, hnone⟩ := h c (by simp)
    rw [List.flatMap_cons, List.splitOnP_cons_eq_if_modifyHead]
    by_cases hc : p c = true
    · rw [hkeep hc, List.singleton_append, List.splitOnP_cons_eq_if_modifyHead]
      simp [hc, hrest]
    · rw [Bool.not_eq_true] at hc
      obtain ⟨w, ws, hws⟩ := List.exists_cons_of_ne_nil (List.splitOnP_ne_nil p cs)
      rw [splitOnP_append_of_none _ _ (hnone hc), hrest, hws]
      simp [hc]

theorem takeWhile_flatMap (q : Char → Bool) (cs : List Char) (h : Spares σ (!q ·) cs) :
    (cs.flatMap σ).takeWhile q = (cs.takeWhile q).flatMap σ := by
  induction cs with
  | nil => simp
  | cons c cs ih =>
    obtain ⟨hkeep, hall⟩ := h c (by simp)
    by_cases hc : q c = true
    · have hmore : ∀ d ∈ σ c, q d = true := by simpa [hc] using hall
      rw [List.flatMap_cons, List.takeWhile_append_of_pos hmore, ih h.tail]
      simp [hc]
    · rw [Bool.not_eq_true] at hc
      simp [hkeep (by simp [hc]), hc]

theorem dropWhile_flatMap (hne : ∀ c, σ c ≠ []) (cs : List Char) (h : Spares σ p cs) :
    (cs.flatMap σ).dropWhile p = (cs.dropWhile p).flatMap σ := by
  induction cs with
  | nil => simp
  | cons c cs ih =>
    obtain ⟨hkeep, hnone⟩ := h c (by simp)
    by_cases hc : p c = true
    · rw [List.flatMap_cons, hkeep hc, List.singleton_append, List.dropWhile_cons_of_pos hc,
        List.dropWhile_cons_of_pos hc, ih h.tail]
    · rw [Bool.not_eq_true] at hc
      obtain ⟨d, ds, hds⟩ := List.exists_cons_of_ne_nil (hne c)
      have hd := hnone hc d (by simp [hds])
      simp [hds, hc, hd]

end Cuts

/-- No character is replaced by nothing, so what is empty afterwards was empty. -/
theorem filter_map_flatMap {σ : Char → List Char} (h : ∀ c, σ c ≠ []) (ws : List (List Char)) :
    (ws.map (·.flatMap σ)).filter (· ≠ []) = (ws.filter (· ≠ [])).map (·.flatMap σ) := by
  rw [List.filter_map]
  congr 1
  apply List.filter_congr
  intro w _
  cases w with
  | nil => rfl
  | cons c cs => simp [h c]

theorem words_flatMap {σ : Char → List Char} (hne : ∀ c, σ c ≠ []) (cs : List Char)
    (h : Spares σ (· == ' ') cs) :
    words (cs.flatMap σ) = (words cs).map (·.flatMap σ) := by
  rw [words, List.splitOn_eq_splitOnP, splitOnP_flatMap cs h, filter_map_flatMap hne]
  rfl

end Listing
end CrudLayer
