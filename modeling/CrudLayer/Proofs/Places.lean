import Mathlib
import CrudLayer.Emission
import CrudLayer.Proofs.Layout
import CrudLayer.Proofs.Operations

namespace CrudLayer.Artifact

def folder (c : Config) (k : ArtifactKind) : Path := (home c).down k.layer

/-- A file is directly in its directory. -/
theorem pathOf_eq_child (c : Config) (k : ArtifactKind) (e : String) :
    pathOf c k e = (folder c k).down [k.fileName e] :=
  Path.down_append (home c) k.layer [k.fileName e]

/-- So is the file that is staged, under its own name. -/
theorem stagingPath_pathOf (c : Config) (k : ArtifactKind) (e : String) (he : '/' ∉ e.toList) :
    Emission.stagingPath (pathOf c k e) = (folder c k).down [k.stagingName e] := by
  have hn : ∀ m ∈ k.layer ++ [k.fileName e], Path.IsName m := isName_of_mem_route k e he
  have hfile : (pathOf c k e).fileName? = some (k.fileName e) :=
    Path.fileName?_down_concat (home c) k.layer _ hn
  rw [Emission.stagingPath, hfile]
  exact (Path.withFileName_down_concat (home c) k.layer _ _ hn k.layer_ne_nil).trans
    (Path.down_append (home c) k.layer _)

theorem body_folder (c : Config) (k : ArtifactKind) :
    (folder c k).body = (Path.lead (home c).stem).2 ++ k.layer :=
  Path.body_down (home c) k.layer k.isName_of_mem_layer k.layer_ne_nil

theorem origin_folder (here : Location) (c : Config) (k : ArtifactKind) :
    Disk.origin here (folder c k) = Disk.origin here (home c) :=
  Disk.origin_down here (home c) k.layer k.isName_of_mem_layer

/-- There is room to stage a file whose path has few segments, and only short ones. -/
theorem fits_stagingPath (c : Config) (k : ArtifactKind) (e : String) (he : '/' ∉ e.toList)
    (hsegments : ∀ s ∈ (home c).stem ++ (k.layer ++ [k.stagingName e]),
      Disk.isTooLong s = false ∧ Char.ofNat 0 ∉ s.toList)
    (hfew : ((home c).stem ++ (k.layer ++ [k.stagingName e])).length < 16) :
    Disk.Fits (Emission.stagingPath (pathOf c k e)) := by
  have hn : ∀ n ∈ k.layer ++ [k.stagingName e], Path.IsName n := by
    intro n hn
    rcases List.mem_append.mp hn with hn | hn
    · exact k.isName_of_mem_layer n hn
    · rw [List.mem_singleton.mp hn]
      exact k.isName_stagingName e he
  rw [stagingPath_pathOf c k e he, folder, ← Path.down_append]
  exact Disk.fits_down (home c) _ hn (by simp) hsegments hfew

/-- The first path above a file is its directory. -/
theorem parents_pathOf (c : Config) (k : ArtifactKind) (e : String) (he : '/' ∉ e.toList) :
    (pathOf c k e).parents = folder c k :: (folder c k).parents :=
  Path.parents_down_concat (home c) k.layer _ (isName_of_mem_route k e he) k.layer_ne_nil

theorem isEmpty_folder (c : Config) (k : ArtifactKind) : (folder c k).isEmpty = false :=
  Path.isEmpty_down (home c) k.layer k.isName_of_mem_layer k.layer_ne_nil

/-- A path that has room for a staged file has room for the file. -/
theorem fits_pathOf (c : Config) (k : ArtifactKind) (e : String) (he : '/' ∉ e.toList)
    (h : Disk.Fits (Emission.stagingPath (pathOf c k e))) : Disk.Fits (pathOf c k e) := by
  have hfile := k.isName_fileName e he
  have hstaged := k.isName_stagingName e he
  rw [stagingPath_pathOf c k e he] at h
  rw [pathOf_eq_child]
  have hbody : ∀ n, Path.IsName n →
      ((folder c k).down [n]).body = (Path.lead (folder c k).stem).2 ++ [n] := fun n hn =>
    Path.body_down (folder c k) [n] (by simpa using hn) (by simp)
  -- The name under which a file is staged has its own in it, so it is the longer one.
  obtain ⟨slash, htext⟩ := Path.text_down_name (folder c k)
  have hlong := h.usable.short
  have hzero := h.usable.no_zero
  rw [htext _ hstaged] at hlong hzero
  simp only [ArtifactKind.stagingName, String.utf8ByteSize_append] at hlong
  simp only [ArtifactKind.stagingName, String.toList_append, List.mem_append] at hzero
  refine ⟨⟨fun ch hch => ?_, ?_, ?_⟩, fun s hs => ?_⟩
  · simp only [htext _ hfile, String.toList_append, List.mem_append] at hch
    exact hzero ch (hch.imp_right fun hm => Or.inl (Or.inr hm))
  · have hne := hfile.ne_empty
    simp [Path.isEmpty, htext _ hfile, hne]
  · simp only [htext _ hfile, String.utf8ByteSize_append]
    omega
  · rw [hbody _ hfile] at hs
    rcases List.mem_append.mp hs with hs | hs
    · exact h.short s (by rw [hbody _ hstaged]; exact List.mem_append_left _ hs)
    · have hname := h.short (k.stagingName e) (by simp [hbody _ hstaged])
      rw [List.mem_singleton.mp hs]
      simp only [Disk.isTooLong, ArtifactKind.stagingName, String.utf8ByteSize_append,
        decide_eq_false_iff_not] at hname ⊢
      omega

/-- Files of one table, in the places that their kinds give them, with one of a kind at most. -/
structure Siblings (c : Config) (e : String) (artifacts : List Artifact) : Prop where
  no_slash : '/' ∉ e.toList
  path_eq : ∀ a ∈ artifacts, a.path = pathOf c a.kind e
  nodup_kinds : (artifacts.map (·.kind)).Nodup

theorem Siblings.of_append {c : Config} {e : String} {as bs : List Artifact}
    (hs : Siblings c e (as ++ bs)) : Siblings c e as ∧ ∀ a ∈ as, ∀ b ∈ bs, a.kind ≠ b.kind := by
  have hnodup := hs.nodup_kinds
  rw [List.map_append, List.nodup_append] at hnodup
  refine ⟨⟨hs.no_slash, fun a ha => hs.path_eq a (List.mem_append_left bs ha), hnodup.1⟩, ?_⟩
  exact fun a ha b hb => hnodup.2.2 _ (List.mem_map_of_mem ha) _ (List.mem_map_of_mem hb)

/-- What was done before a file was done for other kinds. -/
theorem Siblings.kind_ne {c : Config} {e : String} {artifacts done rest : List Artifact}
    {a : Artifact} (hs : Siblings c e artifacts) (hsplit : done ++ a :: rest = artifacts) :
    ∀ b ∈ done, b.kind ≠ a.kind := by
  subst hsplit
  exact fun b hb => hs.of_append.2 b hb a List.mem_cons_self

theorem Siblings.of_cons {c : Config} {e : String} {rest : List Artifact} {a : Artifact}
    (hs : Siblings c e (a :: rest)) :
    Siblings c e rest ∧ ∀ b ∈ rest, b.kind ≠ a.kind := by
  have hnodup : a.kind ∉ rest.map (·.kind) ∧ (rest.map (·.kind)).Nodup := by
    simpa using hs.nodup_kinds
  refine ⟨⟨hs.no_slash, fun b hb => hs.path_eq b (List.mem_cons_of_mem a hb), hnodup.2⟩, ?_⟩
  intro b hb heq
  exact hnodup.1 (heq ▸ List.mem_map_of_mem hb)

variable (here : Location) (c : Config) (e : String)

theorem place_folder (k : ArtifactKind) :
    Disk.place here (folder c k) = k.layer.reverse ++ Disk.place here (home c) :=
  Disk.place_down here (home c) k.layer k.isName_of_mem_layer

/-- The place of a file is told by its layer and the home of all files. -/
theorem place_pathOf (k : ArtifactKind) (he : '/' ∉ e.toList) :
    Disk.place here (pathOf c k e) =
      k.fileName e :: (k.layer.reverse ++ Disk.place here (home c)) := by
  rw [pathOf_eq_child, Disk.place_child here _ _ (k.isName_fileName e he), place_folder]

theorem place_stagingPath (k : ArtifactKind) (he : '/' ∉ e.toList) :
    Disk.place here (Emission.stagingPath (pathOf c k e)) =
      k.stagingName e :: (k.layer.reverse ++ Disk.place here (home c)) := by
  rw [stagingPath_pathOf c k e he, Disk.place_child here _ _ (k.isName_stagingName e he),
    place_folder]

/-- No two files share a place. -/
theorem place_pathOf_injective (he : '/' ∉ e.toList) :
    Function.Injective fun k => Disk.place here (pathOf c k e) := by
  intro j k h
  simp only [place_pathOf here c e _ he, List.cons.injEq, List.append_cancel_right_eq,
    List.reverse_inj] at h
  exact ArtifactKind.layer_injective h.2

/-- No two files are staged at one place. -/
theorem place_stagingPath_injective (he : '/' ∉ e.toList) :
    Function.Injective fun k => Disk.place here (Emission.stagingPath (pathOf c k e)) := by
  intro j k h
  simp only [place_stagingPath here c e _ he, List.cons.injEq, List.append_cancel_right_eq,
    List.reverse_inj] at h
  exact ArtifactKind.layer_injective h.2

/-- No file of any table is where a file of any is staged. -/
theorem place_pathOf_ne_stagingPath (j k : ArtifactKind) (he : '/' ∉ e.toList) {e' : String}
    (he' : '/' ∉ e'.toList) :
    Disk.place here (pathOf c j e) ≠ Disk.place here (Emission.stagingPath (pathOf c k e')) := by
  rw [place_pathOf here c e j he, place_stagingPath here c e' k he']
  intro h
  exact j.fileName_ne_stagingName k e e' (List.cons.inj h).1

/-- Files of tables with different entity names are never in one place. Where their directories are
one, so are their kinds, and then only the entity names can tell their names apart. -/
theorem place_pathOf_ne_of_entity (j k : ArtifactKind) (he : '/' ∉ e.toList) {e' : String}
    (he' : '/' ∉ e'.toList) (hne : e ≠ e') :
    Disk.place here (pathOf c j e) ≠ Disk.place here (pathOf c k e') := by
  rw [place_pathOf here c e j he, place_pathOf here c e' k he']
  intro h
  obtain ⟨hname, hfolder⟩ := List.cons.inj h
  rw [List.append_cancel_right_eq, List.reverse_inj] at hfolder
  rw [ArtifactKind.layer_injective hfolder] at hname
  have hchars := congrArg String.toList hname
  simp only [ArtifactKind.fileName, ArtifactKind.typeName, String.toList_append,
    List.append_cancel_right_eq] at hchars
  exact hne (String.toList_injective hchars)

/-- The place of a file is neither that of a file of another kind nor that beside it. -/
theorem pathOf_apart (he : '/' ∉ e.toList) {j k : ArtifactKind} (hne : j ≠ k) :
    Disk.place here (pathOf c j e) ≠ Disk.place here (pathOf c k e) ∧
      Disk.place here (pathOf c j e) ≠ Disk.place here (Emission.stagingPath (pathOf c k e)) :=
  ⟨fun heq => hne (place_pathOf_injective here c e he heq),
    place_pathOf_ne_stagingPath here c e j k he he⟩

/-- Files of two kinds are apart, wherever each of them is staged. -/
theorem stagingPath_apart (he : '/' ∉ e.toList) {j k : ArtifactKind} (hne : j ≠ k) :
    Disk.place here (Emission.stagingPath (pathOf c j e)) ≠ Disk.place here (pathOf c k e) ∧
      Disk.place here (Emission.stagingPath (pathOf c j e)) ≠
        Disk.place here (Emission.stagingPath (pathOf c k e)) :=
  ⟨(place_pathOf_ne_stagingPath here c e k j he he).symm,
    fun heq => hne (place_stagingPath_injective here c e he heq)⟩

/-- The ways to the directories of two files part at most by the names of their layers. -/
theorem onWay_folder (j k : ArtifactKind) (l : Location) (h : Disk.OnWay here (folder c k) l) :
    Disk.OnWay here (folder c j) l ∨ ∃ n ∈ k.layer, l.head? = some n := by
  obtain ⟨front, hfront, rfl⟩ := h
  rw [body_folder] at hfront
  rw [origin_folder here c k, ← origin_folder here c j]
  -- The way to both folders is the same up to the home of all files.
  rcases List.prefix_or_prefix_of_prefix hfront (List.prefix_append _ _) with hpre | ⟨names, rfl⟩
  · left
    refine ⟨front, ?_, rfl⟩
    rw [body_folder]
    exact hpre.trans (List.prefix_append _ _)
  · rcases List.eq_nil_or_concat' names with rfl | ⟨names, n, rfl⟩
    · left
      refine ⟨_, ?_, rfl⟩
      rw [body_folder, List.append_nil]
      exact List.prefix_append _ _
    · right
      have hsub := (List.prefix_append_right_inj _).mp hfront
      have hnames : ∀ m ∈ names ++ [n], Path.IsName m := fun m hm =>
        k.isName_of_mem_layer m (hsub.subset hm)
      refine ⟨n, hsub.subset (by simp), ?_⟩
      rw [Disk.reach_append, Disk.reach_names _ _ hnames]
      simp

/-- A place is in the directory of a file under a name that no layer has. -/
def IsFilePlace (l : Location) : Prop := ∃ n, l.head? = some n ∧ '.' ∈ n.toList

/-- Where a file belongs no directory is needed. -/
theorem isFilePlace_pathOf (k : ArtifactKind) (he : '/' ∉ e.toList) :
    IsFilePlace (Disk.place here (pathOf c k e)) := by
  rw [place_pathOf here c e k he]
  exact ⟨k.fileName e, rfl, by simp [ArtifactKind.fileName]⟩

theorem isFilePlace_stagingPath (k : ArtifactKind) (he : '/' ∉ e.toList) :
    IsFilePlace (Disk.place here (Emission.stagingPath (pathOf c k e))) := by
  rw [place_stagingPath here c e k he]
  exact ⟨k.stagingName e, rfl, by simp [ArtifactKind.stagingName]⟩

/-- Once the directory of one file is there, what is no directory is on the way to none of the
files. -/
theorem not_onWay_folder {d : Disk} {j : ArtifactKind} (hopen : d.Open (folder c j))
    {l : Location} (hl : IsFilePlace l) (hdir : d.entry? l ≠ some .directory) (k : ArtifactKind) :
    ¬ Disk.OnWay d.here (folder c k) l := by
  intro hway
  rcases onWay_folder d.here c j k l hway with hj | ⟨n, hn, hhead⟩
  · exact hdir (hopen.directory l hj)
  · obtain ⟨m, hm, hdot⟩ := hl
    rw [hm, Option.some.injEq] at hhead
    rw [hhead] at hdot
    exact k.no_dot_of_mem_layer n hn hdot

/-- What is above a file lies on the way to its directory. -/
theorem onWay_of_mem_parents (k : ArtifactKind) (he : '/' ∉ e.toList) (q : Path)
    (hq : q ∈ (pathOf c k e).parents) (l : Location) (h : Disk.OnWay here q l) :
    Disk.OnWay here (folder c k) l := by
  rw [parents_pathOf c k e he] at hq
  rcases List.mem_cons.mp hq with rfl | hq
  · exact h
  · exact Disk.onWay_of_mem_parents here _ q hq l h

end CrudLayer.Artifact
