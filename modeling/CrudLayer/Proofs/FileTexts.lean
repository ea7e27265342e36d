import Mathlib
import CrudLayer.Proofs.FormWords

namespace CrudLayer

open Listing

theorem Listing.characters_map_fill (σ : Filling) (ls : Listing) :
    characters (ls.map σ.fill) = (characters ls).map (·.flatMap σ.spelling) := by
  simp only [characters, List.map_map]
  exact List.map_congr_left fun l _ => σ.toList_fill l

/-- Names that are safe to fill in break no line. -/
theorem Listing.unbroken_map_fill {σ : Filling} (h : σ.IsSafe) (ls : Listing) (hls : Unbroken ls) :
    Unbroken (ls.map σ.fill) := by
  intro l hl
  obtain ⟨line, hline, rfl⟩ := List.mem_map.mp hl
  rw [σ.toList_fill, List.mem_flatMap]
  rintro ⟨c, hc, hbreak⟩
  have hspares := h.spares_char '\n' (by decide) (by decide) (by decide) [c] c (by simp)
  have hne : (c == '\n') = false := by
    rw [beq_eq_false_iff_ne]
    rintro rfl
    exact hls line hline hc
  exact absurd (hspares.2 hne '\n' hbreak) (by decide)

/-- A file splits into the lines that it was put together from. -/
theorem Listing.splitOn_render (ls : Listing) (h : Unbroken ls) (hne : ls ≠ []) :
    ls.render.toList.splitOn '\n' = characters ls := by
  have hlines : characters (lines ls.render) = characters ls := by rw [lines_render ls h hne]
  simpa [lines, characters, Function.comp_def] using hlines

namespace ArtifactKind

theorem listing_ne_nil (k : ArtifactKind) (ctx : Context) : k.listing ctx ≠ [] := by
  cases k <;> exact List.cons_ne_nil _ _

/-- Only the two classes that hold fields depend on them. -/
theorem listing_bare (k : ArtifactKind) (ctx : Context) (hk : k ∉ Members.holders) :
    k.listing ctx.bare = k.listing ctx := by
  cases k
  case entity => exact absurd (by decide) hk
  case transferObject => exact absurd (by decide) hk
  all_goals rfl

end ArtifactKind

section Accepted

variable (t : Table) (c : Config) (ht : t.checkNames = .ok ())
  (hc : Config.checkPackage c.basePackage = .ok ()) (k : ArtifactKind)

include ht hc

/-- No file has a line end but at the ends of its lines. -/
theorem unbroken_listing : Unbroken (k.listing (Context.ofTable t c)) := by
  have hinert := Context.isInert_ofTable t c ht hc
  by_cases hk : k ∈ Members.holders
  · rcases Members.mem_holders_iff.mp hk with rfl | rfl
    · exact Entity.unbroken_listing _ hinert
    · exact Members.unbroken_transferObject _ hinert
  · have h := Filling.isSafe_withoutField t c ht hc
    have hform := unbroken_map_fill h _ (unbroken_form k)
    rw [h.map_fill_listing k] at hform
    rwa [← k.listing_bare _ hk]

theorem characters_content :
    (k.content (Context.ofTable t c)).toList.splitOn '\n' =
      characters (k.listing (Context.ofTable t c)) :=
  splitOn_render _ (unbroken_listing t c ht hc k) (k.listing_ne_nil _)

/-- A file without fields has the characters of its form, filled in. -/
theorem characters_content_form (hk : k ∉ Members.holders) :
    (k.content (Context.ofTable t c)).toList.splitOn '\n' = (formCharacters k).val.map
      (·.flatMap (Filling.mk (Context.ofTable t c) (Field.form .text)).spelling) := by
  have h := Filling.isSafe_withoutField t c ht hc
  rw [characters_content t c ht hc, ← k.listing_bare _ hk, ← characters_form, ← characters_map_fill,
    h.map_fill_listing]

theorem lines_content :
    lines (k.content (Context.ofTable t c)) = k.listing (Context.ofTable t c) :=
  lines_render _ (unbroken_listing t c ht hc k) (k.listing_ne_nil _)

theorem codeWords_content :
    codeWords (k.content (Context.ofTable t c)) =
      (fileWords (k.listing (Context.ofTable t c))).map String.ofList := by
  rw [codeWords, characters_content t c ht hc k]
  rfl

end Accepted

/-- The condition on the lines of forms, as it is used. -/
theorem no_package_of_all_isFormLine (css : List (List Char)) (h : css.all isFormLine = true) :
    ∀ cs ∈ css, isComment cs = true ∨ ∀ w ∈ pieces cs, 'π' ∉ w := by
  intro cs hcs
  rcases Bool.or_eq_true_iff.mp (List.all_eq_true.mp h cs hcs) with hcomment | hpieces
  · exact Or.inl hcomment
  · refine Or.inr fun w hw hmem => ?_
    have hnone := List.all_eq_true.mp (List.all_eq_true.mp hpieces w hw) 'π' hmem
    exact absurd hnone (by decide)

namespace Filling.IsSafe

variable {σ : Filling} (h : σ.IsSafe)

include h in
/-- The words of a file without fields. -/
theorem fileWords_bare (k : ArtifactKind) :
    fileWords (k.listing σ.context.bare) =
      (fileWords (k.listing (Context.form []))).map (·.flatMap σ.spelling) := by
  have hlines := no_package_of_all_isFormLine _ (all_isFormLine_form k)
  rw [← h.map_fill_listing k, fileWords, characters_map_fill, h.declarationLines_map,
    h.flatMap_lineWords_map _ hlines]
  rfl

include h in
/-- The words of what a file has for a field. -/
theorem wordsIn_members (k : ArtifactKind) :
    wordsIn (k.members σ.field) =
      (wordsIn (k.members (Field.form σ.field.type))).map (·.flatMap σ.spelling) := by
  have hlines := no_package_of_all_isFormLine _ (all_isFormLine_members k σ.field.type)
  rw [← h.map_fill_members k, wordsIn, characters_map_fill, h.flatMap_lineWords_map _ hlines]
  rfl

end Filling.IsSafe

end CrudLayer
