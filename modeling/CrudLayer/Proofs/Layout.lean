import Mathlib
import CrudLayer.Artifact.Plan
import CrudLayer.Proofs.Paths

namespace CrudLayer

theorem Naming.continuesIdentifier_of_mem (s : String) (hs : isIdentifier s = true) (c : Char)
    (hc : c ∈ s.toList) : continuesIdentifier c = true := by
  unfold isIdentifier at hs
  cases hl : s.toList with
  | nil => simp [hl] at hc
  | cons a rest =>
    simp only [hl, Bool.and_eq_true, List.all_eq_true] at hs
    rw [hl, List.mem_cons] at hc
    rcases hc with rfl | hc
    · have ha := hs.1
      simp only [startsIdentifier, continuesIdentifier, Char.isAlphanum, Bool.or_eq_true] at ha ⊢
      tauto
    · exact hs.2 c hc

namespace Table

theorem isIdentifier_entityName (t : Table) (h : t.checkNames = .ok ()) :
    Naming.isIdentifier t.entityName = true := by
  by_contra hid
  simp [checkNames, hid] at h

end Table

namespace ArtifactKind

def fileName (k : ArtifactKind) (entityName : String) : String := k.typeName entityName ++ ".java"

def stagingName (k : ArtifactKind) (entityName : String) : String :=
  "." ++ k.fileName entityName ++ ".crudforge-tmp"

theorem layer_ne_nil (k : ArtifactKind) : k.layer ≠ [] := by
  cases k <;> simp [layer]

/-- No two kinds share a layer. -/
theorem layer_injective : Function.Injective layer := by
  intro j k h
  cases j <;> cases k <;> first | rfl | simp [layer] at h

theorem isName_of_mem_layer (k : ArtifactKind) (n : String) (h : n ∈ k.layer) : Path.IsName n := by
  have hk : ∀ n ∈ k.layer, '/' ∉ n.toList ∧ n ≠ "" ∧ n ≠ "." ∧ n ≠ ".." := by
    cases k <;> decide
  obtain ⟨h1, h2, h3, h4⟩ := hk n h
  exact ⟨h1, h2, h3, h4⟩

theorem no_dot_of_mem_layer (k : ArtifactKind) (n : String) (h : n ∈ k.layer) :
    '.' ∉ n.toList := by
  have hk : ∀ n ∈ k.layer, '.' ∉ n.toList := by
    cases k <;> decide
  exact hk n h

/-- A file name is that of the entity, a suffix and an ending. -/
theorem mem_fileName (k : ArtifactKind) (e : String) (c : Char) :
    c ∈ (k.fileName e).toList ↔ c ∈ e.toList ∨ c ∈ k.suffix.toList ∨ c ∈ ".java".toList := by
  simp only [fileName, typeName, String.toList_append, List.mem_append, or_assoc]

theorem isName_fileName (k : ArtifactKind) (e : String) (he : '/' ∉ e.toList) :
    Path.IsName (k.fileName e) := by
  have hlen : 5 ≤ (k.fileName e).toList.length := by
    simp [fileName]
  have hsuffix : '/' ∉ k.suffix.toList := by
    cases k <;> decide
  refine ⟨?_, ?_, ?_, ?_⟩
  · rw [mem_fileName]
    rintro (h | h | h)
    · exact he h
    · exact hsuffix h
    · exact absurd h (by decide)
  all_goals
    intro h
    rw [h] at hlen
    exact absurd hlen (by decide)

theorem isName_stagingName (k : ArtifactKind) (e : String) (he : '/' ∉ e.toList) :
    Path.IsName (k.stagingName e) := by
  have hlen : 14 ≤ (k.stagingName e).toList.length := by
    simp [stagingName]
  refine ⟨?_, ?_, ?_, ?_⟩
  · simp only [stagingName, String.toList_append, List.mem_append]
    rintro ((h | h) | h)
    · exact absurd h (by decide)
    · exact (isName_fileName k e he).no_slash h
    · exact absurd h (by decide)
  all_goals
    intro h
    rw [h] at hlen
    exact absurd hlen (by decide)

/-- Staged files have names that no file in its place has. -/
theorem fileName_ne_stagingName (j k : ArtifactKind) (e e' : String) :
    j.fileName e ≠ k.stagingName e' := by
  intro h
  have hlast := congrArg (fun s : String => s.toList.reverse.head?) h
  simp [fileName, stagingName] at hlast

end ArtifactKind

namespace Artifact

/-- The directory of the base package, below which all files of a table lie. -/
def home (c : Config) : Path := c.basePath.join c.packagePath

/-- The names that lead from the directory of the base package to the file of a kind. -/
def route (k : ArtifactKind) (entityName : String) : List String :=
  k.layer ++ [k.fileName entityName]

/-- The path of a file leads down its route from the home of all of them. -/
theorem pathOf_eq_down (c : Config) (k : ArtifactKind) (e : String) :
    pathOf c k e = (home c).down (route k e) := rfl

/-- All steps of a route go down to names. -/
theorem isName_of_mem_route (k : ArtifactKind) (e : String) (he : '/' ∉ e.toList) :
    ∀ n ∈ route k e, Path.IsName n := by
  intro n hn
  rcases List.mem_append.mp hn with h | h
  · exact k.isName_of_mem_layer n h
  · rw [List.mem_singleton.mp h]
    exact k.isName_fileName e he

/-- No two kinds share a route. -/
theorem route_injective (e : String) : Function.Injective (route · e) := by
  intro j k h
  have hd := congrArg List.dropLast h
  simp only [route, List.dropLast_concat] at hd
  exact ArtifactKind.layer_injective hd

/-- The way to the file of one kind does not lead past the file of another. -/
theorem exists_route_not_prefix (k : ArtifactKind) (e : String) :
    ∃ j, ¬ route k e <+: route j e := by
  by_cases hk : k = .repository
  · refine ⟨.mapper, fun h => ?_⟩
    have hroute := h.eq_of_length (by simp [hk, route, ArtifactKind.layer])
    exact absurd (route_injective e hroute) (by simp [hk])
  · refine ⟨.repository, fun h => ?_⟩
    have hlen : (route .repository e).length ≤ (route k e).length := by
      have hpos : 1 ≤ k.layer.length := List.length_pos_of_ne_nil k.layer_ne_nil
      have hone : ArtifactKind.repository.layer.length = 1 := rfl
      simp only [route, List.length_append, List.length_singleton, hone]
      omega
    exact hk (route_injective e (h.eq_of_length_le hlen))

/-- The components of a path are those of the home and then the route. -/
theorem components_pathOf (c : Config) (k : ArtifactKind) (e : String) (he : '/' ∉ e.toList) :
    (pathOf c k e).components = (home c).components ++ (route k e).map Path.Component.name := by
  rw [pathOf_eq_down]
  exact Path.components_down (home c) (route k e) (isName_of_mem_route k e he)

end Artifact
end CrudLayer
