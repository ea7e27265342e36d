import Mathlib
import CrudLayer.Proofs.Directories

namespace CrudLayer.Disk

/-- No file is on the way that a path takes. -/
def Clear (d : Disk) (p : Path) : Prop :=
  ∀ l, OnWay d.here p l → ∀ bytes, d.entry? l ≠ some (.file bytes)

theorem usable_ofSegments (xs ys : List String) (h : Usable (Path.ofSegments (xs ++ ys)))
    (hne : (Path.ofSegments xs).isEmpty = false) : Usable (Path.ofSegments xs) := by
  by_cases hys : ys = []
  · rwa [hys, List.append_nil] at h
  by_cases hxs : xs = []
  · simp [hxs, Path.isEmpty, Path.ofSegments] at hne
  have htext : (Path.ofSegments (xs ++ ys)).text =
      (Path.ofSegments xs).text ++ "/" ++ "/".intercalate ys :=
    String.intercalate_append_of_ne_nil hxs hys
  have hzero := h.no_zero
  have hshort := h.short
  rw [htext] at hzero hshort
  refine ⟨fun c hc => hzero c (by simp [hc]), hne, ?_⟩
  simp only [String.utf8ByteSize_append] at hshort
  omega

/-- A system takes what is left of a path when names at its end are taken away. -/
theorem usable_build (a : Path.Anchor) (reversed shorter : List String)
    (hsuffix : shorter <:+ reversed) (h : Usable (Path.build a reversed))
    (hne : (Path.build a shorter).isEmpty = false) : Usable (Path.build a shorter) := by
  obtain ⟨t, rfl⟩ := hsuffix
  cases a with
  | root =>
    cases shorter with
    | nil => exact ⟨by simp [Path.build], rfl, by decide⟩
    | cons s rest =>
      -- The shorter path has the longer one's segments up to some place.
      have hlong : Path.build .root (t ++ s :: rest) =
          Path.ofSegments (("" :: (s :: rest).reverse) ++ t.reverse) := by
        cases t <;> simp [Path.build]
      rw [hlong] at h
      exact usable_ofSegments _ _ h hne
  | current =>
    have hlong : Path.build .current (t ++ shorter) =
        Path.ofSegments (("." :: shorter.reverse) ++ t.reverse) := by
      simp [Path.build]
    rw [hlong] at h
    exact usable_ofSegments _ _ h hne
  | relative =>
    have hlong : Path.build .relative (t ++ shorter) =
        Path.ofSegments (shorter.reverse ++ t.reverse) := by
      simp [Path.build]
    rw [hlong] at h
    exact usable_ofSegments _ _ h hne

/-- A look up that cannot be finished where no file is in the way finds something missing. -/
theorem foldlM_step_missing (d : Disk) (l : Location) (ss : List String)
    (hdir : d.entry? l = some .directory) (hshort : ∀ s ∈ ss, isTooLong s = false)
    (hclear : ∀ front, front <+: ss → ∀ bytes, d.entry? (reach l front) ≠ some (.file bytes))
    (hwalk : ¬ d.Walk l ss) : ss.foldlM d.step l = .error .missing := by
  -- The way breaks off at the first directory that is missing, since no file is on it.
  induction ss generalizing l with
  | nil => exact absurd ((walk_nil_iff d l).mpr hdir) hwalk
  | cons s ss ih =>
    have hs := hshort s List.mem_cons_self
    rw [List.foldlM_cons, step_of_directory d l s hdir, hs]
    cases hnext : d.entry? (enter l s) with
    | none => rfl
    | some entry =>
      cases entry with
      | file bytes =>
        exact absurd hnext (hclear [s] ((List.prefix_cons_inj s).mpr List.nil_prefix) bytes)
      | directory =>
        have hrest := ih (enter l s) hnext (fun r hr => hshort r (List.mem_cons_of_mem s hr))
          (fun front hf => hclear (s :: front) ((List.prefix_cons_inj s).mpr hf))
          (fun h => hwalk ((walk_cons_iff d l s ss).mpr ⟨hdir, hs, h⟩))
        exact hrest

variable {d : Disk} {q : Path} {front : List String} {s : String}

/-- A directory that is there already counts as made. -/
theorem ensure_of_present (hmake : d.makeDirectory q = .error .present) (hopen : d.Open q) :
    d.makeDirectory q ≠ .error .missing ∧ (d.ensure q).1 = .ok () := by
  refine ⟨by simp [hmake], ?_⟩
  rw [ensure, hmake]
  simp [(isDirectory_iff d q).mpr hopen]

/-- Where a path leads whose last segment stays where it is or goes on. -/
theorem place_of_body (here : Location) (hbody : q.body = front ++ [s]) :
    place here q = enter (reach (origin here q) front) s := by
  rw [place, hbody, reach_append]
  rfl

/-- A directory is at a path if the way to it is walkable and it is there. -/
theorem open_of_walk (hu : Usable q) (hbody : q.body = front ++ [s]) (hshort : isTooLong s = false)
    (hwalk : d.Walk (origin d.here q) front)
    (hentry : d.entry? (place d.here q) = some .directory) : d.Open q := by
  rw [place_of_body d.here hbody] at hentry
  refine ⟨hu, ?_⟩
  rw [hbody, walk_append_iff, walk_singleton_iff]
  exact ⟨hwalk, hwalk.directory front List.prefix_rfl, hshort, hentry⟩

/-- Going up from a directory that is there leads to one that is there. -/
theorem makeDirectory_up (hu : Usable q) (hbody : q.body = front ++ [".."])
    (hwalk : d.Walk (origin d.here q) front) :
    d.makeDirectory q = .error .present ∧ d.entry? (place d.here q) = some .directory := by
  have hdir := hwalk.directory front List.prefix_rfl
  have hlook := ((foldlM_step_iff d _ _ front).mpr ⟨hwalk, rfl⟩).1
  have hloc := locate_of_last d q hu front ".." 0 (by simpa using hbody) (by decide)
  have hup : d.entry? (place d.here q) = some .directory := by
    rw [place_of_body d.here hbody]
    exact directory_enter d _ ".." (Or.inr rfl) hdir
  have hstep := (step_eq_ok_iff d _ _ "..").mpr
    ⟨hdir, by decide, rfl, by rw [← place_of_body d.here hbody, hup]; simp⟩
  refine ⟨?_, hup⟩
  simp [makeDirectory, hloc, hlook, hstep]

/-- A name can be made in a directory that is there unless it is taken. -/
theorem makeDirectory_name (hu : Usable q) (hbody : q.body = front ++ [s])
    (hs : Path.isIdle s = false) (hdots : s ≠ "..") (hshort : isTooLong s = false)
    (hwalk : d.Walk (origin d.here q) front) :
    (d.entry? (place d.here q) = none → ∃ d', d.makeDirectory q = .ok d') ∧
      ∀ entry, d.entry? (place d.here q) = some entry → d.makeDirectory q = .error .present := by
  have hidle : s ≠ "" ∧ s ≠ "." := by
    refine ⟨?_, ?_⟩ <;> rintro rfl <;> exact absurd hs (by decide)
  have hdir := hwalk.directory front List.prefix_rfl
  have hlook := ((foldlM_step_iff d _ _ front).mpr ⟨hwalk, rfl⟩).1
  have hloc := locate_of_last d q hu front s 0 (by simpa using hbody) hidle.1
  have hplace : place d.here q = s :: reach (origin d.here q) front := by
    rw [place_of_body d.here hbody]
    simp [enter, hs, hdots]
  rw [hplace]
  constructor
  · intro hentry
    refine ⟨d.put (reach (origin d.here q) front) s .directory hdir (by simp [hentry]), ?_⟩
    simp [makeDirectory, hloc, hlook, hdots, hidle.2, hdir, hshort, hentry]
  · intro entry hentry
    simp [makeDirectory, hloc, hlook, hdots, hidle.2, hdir, hshort, hentry]

/-- The directory at the end of a path is made, or is there, if the way to it is. -/
theorem ensure_of_walk (hu : Usable q) (hbody : q.body = front ++ [s]) (hs : Path.isIdle s = false)
    (hshort : isTooLong s = false) (hwalk : d.Walk (origin d.here q) front)
    (hfile : ∀ bytes, d.entry? (place d.here q) ≠ some (.file bytes)) :
    d.makeDirectory q ≠ .error .missing ∧ (d.ensure q).1 = .ok () := by
  -- The parent of a directory is there already, a name may have to be made.
  by_cases hdots : s = ".."
  · obtain ⟨hmake, hup⟩ := makeDirectory_up hu (hdots ▸ hbody) hwalk
    exact ensure_of_present hmake (open_of_walk hu hbody hshort hwalk hup)
  · obtain ⟨hfresh, hpresent⟩ := makeDirectory_name hu hbody hs hdots hshort hwalk
    cases hentry : d.entry? (place d.here q) with
    | none =>
      obtain ⟨d', hmake⟩ := hfresh hentry
      exact ⟨by simp [hmake], by simp [ensure, hmake]⟩
    | some entry =>
      cases entry with
      | file bytes => exact absurd hentry (hfile bytes)
      | directory =>
        exact ensure_of_present (hpresent _ hentry) (open_of_walk hu hbody hshort hwalk hentry)

/-- Looking up a path that ends in a segment past its start goes by the others first. -/
theorem makeDirectory_missing (hu : Usable q) (hbody : q.body = front ++ [s]) (hs : s ≠ "")
    (hshort : ∀ r ∈ front, isTooLong r = false) (hclear : d.Clear q)
    (hwalk : ¬ d.Walk (origin d.here q) front) : d.makeDirectory q = .error .missing := by
  have hloc := locate_of_last d q hu front s 0 (by simpa using hbody) hs
  have hmiss := foldlM_step_missing d (origin d.here q) front (d.directory_origin q) hshort
    (fun f hf => hclear _ ⟨f, hf.trans (hbody ▸ List.prefix_append _ _), rfl⟩) hwalk
  simp [makeDirectory, hloc, hmiss]

theorem ensure_start (hu : Usable q) (hbody : ∃ k, q.body = List.replicate k "") :
    d.makeDirectory q ≠ .error .missing ∧ (d.ensure q).1 = .ok () := by
  obtain ⟨k, hbody⟩ := hbody
  have hloc := locate_of_empties d q hu k hbody
  have hopen : d.Open q := by
    refine ⟨hu, ?_⟩
    rw [hbody, walk_empties_iff]
    exact d.directory_origin q
  have hmake : d.makeDirectory q = .error .present := by
    simp [makeDirectory, hloc]
  exact ensure_of_present hmake hopen

def chain (a : Path.Anchor) (reversed : List String) : List Path :=
  Path.build a (reversed.dropWhile Path.isIdle) :: Path.above a reversed

theorem Clear.grows {added : Location → Prop} {d' : Disk} {p : Path} (h : d.Clear p)
    (hg : d.Grows d' added) : d'.Clear p := by
  intro l hl bytes hfile
  rw [hg.here] at hl
  exact h l hl bytes ((hg.file_iff l bytes).mp hfile)

theorem chain_idle (a : Path.Anchor) (s : String) (rest : List String)
    (hs : Path.isIdle s = true) : chain a (s :: rest) = chain a rest := by
  simp [chain, Path.above, hs]

theorem chain_name (a : Path.Anchor) (s : String) (rest : List String)
    (hs : Path.isIdle s = false) :
    chain a (s :: rest) = Path.build a (s :: rest) :: chain a rest := by
  simp [chain, Path.above, hs]

theorem not_isEmpty_of_body (hbody : q.body = front ++ [s]) (hs : Path.isIdle s = false) :
    q.isEmpty = false := by
  by_contra hcon
  have htext : q.text = "" := by simpa [Path.isEmpty] using hcon
  have hnone : (⟨""⟩ : Path).body = [""] := by decide
  rw [show q = ⟨""⟩ from congrArg Path.mk htext, hnone] at hbody
  have hmem : s ∈ [""] := hbody ▸ List.mem_append_right _ (List.mem_singleton_self s)
  rw [List.mem_singleton.mp hmem] at hs
  exact absurd hs (by decide)

/-- Once the way to it is there, the last directory of a path is made, and the whole path can be
walked. -/
theorem walk_of_ensure (hu : Usable q) (hbody : q.body = front ++ [s]) (hs : Path.isIdle s = false)
    (hshort : isTooLong s = false) (hclear : d.Clear q) (hwalk : d.Walk (origin d.here q) front) :
    d.makeDirectory q ≠ .error .missing ∧ (d.ensure q).1 = .ok () ∧
      (d.ensure q).2.Walk (origin d.here q) (front ++ [s]) := by
  obtain ⟨hmiss, hensure⟩ := ensure_of_walk hu hbody hs hshort hwalk
    (hclear _ (onWay_place d.here q))
  have hopen := (ensure_open d q hensure).walk
  rw [(ensure_grows d q).here, hbody] at hopen
  exact ⟨hmiss, hensure, hopen⟩

/-- If making the paths above has led as far as the directory that the last segment is set in, then
making one path more leads to its end. -/
theorem ensureFirst_cons (hu : Usable q) (hbody : q.body = front ++ [s])
    (hs : Path.isIdle s = false) (hshort : ∀ r ∈ front ++ [s], isTooLong r = false)
    (hclear : d.Clear q) (above : List Path) (hok : (d.ensureFirst above).1 = .ok ())
    (hwalk : (d.ensureFirst above).2.Walk (origin d.here q) front) :
    (d.ensureFirst (q :: above)).1 = .ok () ∧
      (d.ensureFirst (q :: above)).2.Walk (origin d.here q) (front ++ [s]) := by
  have hempty := not_isEmpty_of_body hbody hs
  have hlast : isTooLong s = false := hshort s (by simp)
  have hne : s ≠ "" := by
    rintro rfl
    exact absurd hs (by decide)
  by_cases hw : d.Walk (origin d.here q) front
  · obtain ⟨hmiss, hend⟩ := walk_of_ensure hu hbody hs hlast hclear hw
    rwa [ensureFirst_not_missing d q _ hempty hmiss]
  · -- The way is not there, so the paths above are made before the last directory.
    have hmiss := makeDirectory_missing hu hbody hne
      (fun r hr => hshort r (List.mem_append_left _ hr)) hclear hw
    rw [ensureFirst_missing d q _ hempty hmiss]
    have hgrows := d.ensureFirst_grows above
    rcases hmade : d.ensureFirst above with ⟨r, d'⟩
    rw [hmade] at hok hwalk hgrows
    obtain rfl : r = .ok () := hok
    rw [← hgrows.here] at hwalk ⊢
    exact (walk_of_ensure hu hbody hs hlast (hclear.grows hgrows) hwalk).2

/-- The start of a path needs no making. -/
theorem ensureFirst_start (p : Path) (hu : Usable (Path.build p.anchor p.body.reverse)) :
    (d.ensureFirst (chain p.anchor [])).1 = .ok () := by
  by_cases hempty : (Path.build p.anchor []).isEmpty = true
  · simp [chain, ensureFirst, hempty]
  rw [Bool.not_eq_true] at hempty
  have husable := usable_build p.anchor _ [] List.nil_suffix hu hempty
  have hstart : ∃ k, (Path.build p.anchor []).body = List.replicate k "" := by
    rcases (Path.anchored_build p [] List.nil_prefix).2 with ⟨-, hb⟩ | hb
    · exact ⟨1, hb⟩
    · exact ⟨0, hb⟩
  obtain ⟨hmiss, hok⟩ := ensure_start (d := d) husable hstart
  rwa [chain, List.dropWhile_nil, ensureFirst_not_missing d _ _ hempty hmiss]

/-- The paths of a part of a way can all be made, the longest last. -/
theorem ensureFirst_chain (p : Path) (hu : Usable (Path.build p.anchor p.body.reverse))
    (hshort : ∀ s ∈ p.body, isTooLong s = false) (hclear : d.Clear p) (reversed : List String)
    (hsuffix : reversed <:+ p.body.reverse) :
    (d.ensureFirst (chain p.anchor reversed)).1 = .ok () ∧
      (d.ensureFirst (chain p.anchor reversed)).2.Walk (origin d.here p) reversed.reverse := by
  -- The way so far can be walked, and one more segment leads one step on.
  induction reversed with
  | nil =>
    refine ⟨ensureFirst_start p hu, ?_⟩
    rw [List.reverse_nil, walk_nil_iff]
    exact (d.ensureFirst_grows _).directory _ (d.directory_origin p)
  | cons s rest ih =>
    have hpart : (s :: rest).reverse <+: p.body := by
      rw [← List.reverse_reverse p.body]
      exact List.reverse_prefix.mpr hsuffix
    have hparts : ∀ r ∈ rest.reverse ++ [s], isTooLong r = false := fun r hr =>
      hshort r (hpart.subset (by rwa [List.reverse_cons]))
    obtain ⟨hok, hwalk⟩ := ih ((List.suffix_cons s rest).trans hsuffix)
    -- An idle segment has no path of its own among those that are made.
    by_cases hidle : Path.isIdle s = true
    · have hstay : ∀ l, enter l s = l := fun l => by simp [enter, hidle]
      rw [chain_idle p.anchor s rest hidle]
      refine ⟨hok, ?_⟩
      rw [List.reverse_cons, walk_append_iff, walk_singleton_iff, hstay]
      have hdir := hwalk.directory _ List.prefix_rfl
      exact ⟨hwalk, hdir, hparts s (by simp), hdir⟩
    rw [Bool.not_eq_true] at hidle
    rw [chain_name p.anchor s rest hidle, List.reverse_cons]
    have hbuilt := Path.anchored_build p (s :: rest) hpart
    have hbody : (Path.build p.anchor (s :: rest)).body = rest.reverse ++ [s] := by
      rcases hbuilt.2 with ⟨hnil, -⟩ | hb
      · exact absurd hnil (by simp)
      · rw [hb, List.reverse_cons]
    have horigin : ∀ here, origin here (Path.build p.anchor (s :: rest)) = origin here p :=
      fun here => by simp only [origin, hbuilt.1]
    have husable := usable_build p.anchor _ _ hsuffix hu (not_isEmpty_of_body hbody hidle)
    have hclear' : d.Clear (Path.build p.anchor (s :: rest)) := by
      rintro l ⟨front, hfront, rfl⟩
      rw [horigin]
      rw [hbody, ← List.reverse_cons] at hfront
      exact hclear _ ⟨front, hfront.trans hpart, rfl⟩
    rw [← horigin d.here] at hwalk ⊢
    exact ensureFirst_cons husable hbody hidle hparts hclear' _ hok hwalk

/-- A directory that is reached by names can be made with all above it exactly if its path is not
too long and no file is on the way to it. -/
theorem ensureFirst_down_iff (d : Disk) (p : Path) (names : List String)
    (hn : ∀ n ∈ names, Path.IsName n) (hne : names ≠ []) :
    (d.ensureFirst (p.down names :: (p.down names).parents)).1 = .ok () ↔
      Fits (p.down names) ∧ d.Clear (p.down names) := by
  have hempty := Path.isEmpty_down p names hn hne
  constructor
  · intro hok
    have hopen := ensureFirst_open d _ _ hempty hok
    -- Making directories replaces no file, so there was none in the way.
    have hgrows := d.ensureFirst_grows (p.down names :: (p.down names).parents)
    refine ⟨⟨hopen.usable, hopen.walk.short⟩, fun l hl bytes hfile => ?_⟩
    rw [← hgrows.here] at hl
    have hdir := hopen.directory l hl
    rw [(hgrows.file_iff l bytes).mpr hfile] at hdir
    exact absurd hdir (by simp)
  · rintro ⟨hfit, hclear⟩
    have hbuild := Path.build_down p names hn hne
    -- The last segment is a name, so the first path to be made is the whole one.
    have hlast : ∃ n rest, (p.down names).body.reverse = n :: rest ∧ Path.isIdle n = false := by
      rw [Path.body_down p names hn hne]
      obtain ⟨front, n, rfl⟩ : ∃ front n, names = front ++ [n] :=
        ⟨_, _, (List.dropLast_append_getLast hne).symm⟩
      exact ⟨n, _, by simp; rfl, (hn n (by simp)).not_idle⟩
    obtain ⟨n, rest, hbody, hidle⟩ := hlast
    have hchain : p.down names :: (p.down names).parents =
        chain (p.down names).anchor (p.down names).body.reverse := by
      rw [Path.parents, chain, hbody, List.dropWhile_cons_of_neg (by simp [hidle]), ← hbody, hbuild]
    rw [hchain]
    exact (ensureFirst_chain _ (by rw [hbuild]; exact hfit.usable) hfit.short hclear _
      List.suffix_rfl).1

end CrudLayer.Disk
