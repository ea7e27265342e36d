import Mathlib
import CrudLayer.Proofs.Accepted
import CrudLayer.Proofs.RoundTrip

namespace CrudLayer.Naming

def pieces (s : String) : List String := (words s).map String.ofList

theorem toList_capitalize (s : String) : (capitalize s).toList = capital s.toList := by
  rw [capitalize, String.toList_ofList]

/-- Raised words stay as they are when the first of their characters is raised again. -/
theorem capital_flatMap_capital (ws : List (List Char)) :
    capital (ws.flatMap capital) = ws.flatMap capital := by
  induction ws with
  | nil => rfl
  | cons w ws ih =>
    cases w with
    | nil => exact ih
    | cons c w =>
      obtain ⟨d, ds, hd⟩ := List.exists_cons_of_ne_nil (Text.upper_ne_nil c)
      have htwice := Text.upper_head_upper c d ds hd
      calc capital (((c :: w) :: ws).flatMap capital)
          = capital (d :: (ds ++ w ++ ws.flatMap capital)) := by simp [capital, hd]
        _ = d :: (ds ++ w ++ ws.flatMap capital) := by simp [capital, htwice]
        _ = ((c :: w) :: ws).flatMap capital := by simp [capital, hd]

theorem capital_append_flatMap (w : List Char) (ws : List (List Char)) :
    capital (w ++ ws.flatMap capital) = (w :: ws).flatMap capital := by
  cases w with
  | nil => exact capital_flatMap_capital ws
  | cons c w => simp [capital]

/-- Capitalized words one after the other, as characters. -/
theorem toList_join_capitalize (ws : List (List Char)) :
    (String.join ((ws.map String.ofList).map capitalize)).toList = ws.flatMap capital := by
  simp [String.toList_join, List.flatMap_map, toList_capitalize]

/-- Empty words add nothing. -/
theorem join_filled (ps : List String) :
    String.join ((ps.filter (· ≠ "")).map capitalize) = String.join (ps.map capitalize) := by
  induction ps with
  | nil => rfl
  | cons p ps ih =>
    by_cases hp : p = ""
    · have hnone : capitalize "" = "" := rfl
      simpa [hp, hnone, String.join_cons] using ih
    · simpa [hp, String.join_cons] using ih

/-- A type is called by the words of its table's name, the first character of each raised, and a
field by those of its column's name, the first word left as it is. Empty words make no
difference. -/
theorem names_from_words (s : String) :
    entityName s = String.join ((pieces s).map capitalize) ∧
    entityName s = String.join (((pieces s).filter (· ≠ "")).map capitalize) ∧
    ∃ first rest, pieces s = first :: rest ∧
      snakeToCamel s = first ++ String.join (rest.map capitalize) := by
  obtain ⟨w, ws, hwords⟩ := List.exists_cons_of_ne_nil (List.splitOn_ne_nil '_' s.toList)
  have hcamel := toList_snakeToCamel s w ws hwords
  have hentity : entityName s = String.join ((pieces s).map capitalize) := by
    rw [← String.toList_inj, entityName, toList_capitalize, hcamel, capital_append_flatMap, pieces,
      words, hwords, toList_join_capitalize]
  refine ⟨hentity, hentity.trans (join_filled _).symm, String.ofList w,
    ws.map String.ofList, by rw [pieces, words, hwords, List.map_cons], ?_⟩
  rw [← String.toList_inj, hcamel, String.toList_append, toList_join_capitalize,
    String.toList_ofList]

end CrudLayer.Naming
