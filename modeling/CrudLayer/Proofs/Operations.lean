import Mathlib
import CrudLayer.Disk.Basic
import CrudLayer.Proofs.Walks

namespace CrudLayer.Disk

/-- The disk `d'` differs from `d` only in what is at one place. -/
structure Sets (d d' : Disk) (l : Location) (e : Option Entry) : Prop where
  here : d'.here = d.here
  entry : d'.entry? = Function.update d.entry? l e

theorem Sets.at {d d' : Disk} {l : Location} {e : Option Entry} (h : d.Sets d' l e) :
    d'.entry? l = e := by
  rw [h.entry, Function.update_self]

theorem Sets.of_ne {d d' : Disk} {l l' : Location} {e : Option Entry} (h : d.Sets d' l e)
    (hne : l' ≠ l) : d'.entry? l' = d.entry? l' := by
  rw [h.entry, Function.update_of_ne hne]

/-- Putting something at a place changes that place only. -/
theorem sets_put (d : Disk) (parent : Location) (name : String) (e : Entry)
    (hp : d.entry? parent = some .directory) (hn : d.entry? (name :: parent) ≠ some .directory) :
    d.Sets (d.put parent name e hp hn) (name :: parent) (some e) := by
  refine ⟨rfl, funext fun l => ?_⟩
  have hfilter := entryIn_filter d.entries (· != name :: parent) l
  show entryIn ((name :: parent, e) :: d.entries.filter (·.1 != name :: parent)) l = _
  rw [entryIn_cons, hfilter]
  by_cases hnil : l = []
  · subst hnil
    rfl
  · by_cases hl : l = name :: parent
    · simp [hl]
    · simp [hnil, hl, entry?]

/-- Whatever is somewhere on a disk is in a directory. -/
theorem directory_of_suffix (d : Disk) (l l' : Location) (h : l <:+ l') (hne : l' ≠ l)
    (hsome : d.entry? l' ≠ none) : d.entry? l = some .directory := by
  obtain ⟨t, rfl⟩ := h
  induction t with
  | nil => exact absurd rfl hne
  | cons n t ih =>
    have hdir : d.entry? (t ++ l) = some .directory := d.in_directory n (t ++ l) hsome
    by_cases ht : t ++ l = l
    · rwa [ht] at hdir
    · exact ih ht (by simp [hdir])

/-- What is not a directory can be dropped alone. -/
theorem sets_drop (d : Disk) (l : Location) (hl : d.entry? l ≠ some .directory) :
    d.Sets (d.drop l (d.not_suffix_here l hl)) l none := by
  refine ⟨rfl, funext fun l' => ?_⟩
  have hfilter := entryIn_filter d.entries (!l.isSuffixOf ·) l'
  show entryIn (d.entries.filter (!l.isSuffixOf ·.1)) l' = _
  rw [hfilter]
  by_cases hnil : l' = []
  · subst hnil
    have hne : [] ≠ l := by
      rintro rfl
      exact hl rfl
    rw [Function.update_of_ne hne, if_pos rfl]
    rfl
  · rw [if_neg hnil]
    by_cases hs : l <:+ l'
    · rw [List.isSuffixOf_iff_suffix.mpr hs]
      by_cases heq : l' = l
      · simp [heq]
      · -- Nothing is below a place that is no directory.
        have hnone : d.entry? l' = none := by
          by_contra hsome
          exact hl (d.directory_of_suffix l l' hs heq hsome)
        simp [heq, hnone]
    · have hf : l.isSuffixOf l' = false := by
        rwa [← Bool.not_eq_true, List.isSuffixOf_iff_suffix]
      have heq : l' ≠ l := by
        rintro rfl
        exact hs List.suffix_rfl
      simp [hf, heq, entry?]

/-- A path that ends in a name leads to that name in the place where the rest of it leads. -/
theorem place_of_name (here : Location) (p : Path) (front : List String) (last : String) (k : ℕ)
    (hbody : p.body = front ++ last :: List.replicate k "") (hidle : Path.isIdle last = false)
    (hdots : last ≠ "..") : place here p = last :: reach (origin here p) front := by
  have hsplit : p.body = (front ++ [last]) ++ List.replicate k "" := by simp [hbody]
  rw [place, hsplit, reach_append, reach_append, reach_empties]
  simp [reach, enter, hidle, hdots]

/-- What is known of a path that ends in a name. -/
theorem locate_named (d : Disk) (p : Path) (parent : Location) (name : String) (slash : Bool)
    (h : d.locate p = .ok (.named parent name slash)) :
    Usable p ∧ Path.isIdle name = false ∧ name ≠ ".." ∧
      ∃ front k, p.body = front ++ name :: List.replicate k "" ∧
        front.foldlM d.step (origin d.here p) = .ok parent := by
  by_cases hu : Usable p
  swap
  · obtain ⟨e, he⟩ := locate_of_not_usable p hu
    simp [he d] at h
  rcases trimmed_cases p.body with ⟨k, hbody⟩ | ⟨front, last, k, hbody, hlast⟩
  · simp [locate_of_empties d p hu k hbody] at h
  · rw [locate_of_last d p hu front last k hbody hlast] at h
    cases hparent : front.foldlM d.step (origin d.here p) with
    | error e => simp [hparent] at h
    | ok l =>
      -- The last segment is a name: another one would lead to a directory.
      by_cases hup : last = "." ∨ last = ".."
      · cases hs : d.step l last <;>
          simp [hparent, hup, hs] at h
      · simp only [hparent, hup, if_false, Except.ok.injEq, Place.named.injEq, ok_bind,
          pure_eq_ok] at h
        obtain ⟨rfl, rfl, -⟩ := h
        rw [not_or] at hup
        exact ⟨hu, by simp [Path.isIdle, hlast, hup.1], hup.2, front, k, hbody, hparent⟩

variable {d d' : Disk} {p : Path}

/-- A path that can be looked up leads to its place. -/
theorem place_of_locate {parent : Location} {name : String} {slash : Bool}
    (h : d.locate p = .ok (.named parent name slash)) : place d.here p = name :: parent := by
  obtain ⟨-, hidle, hdots, front, k, hbody, hparent⟩ := locate_named d p parent name slash h
  rw [eq_reach_of_foldlM d _ parent front hparent]
  exact place_of_name d.here p front name k hbody hidle hdots

/-- What is looked up on the way lies on it. -/
theorem onWay_of_locate (d : Disk) (p : Path) (parent : Location) (name : String) (slash : Bool)
    (h : d.locate p = .ok (.named parent name slash)) :
    OnWay d.here p parent ∧ OnWay d.here p (name :: parent) := by
  obtain ⟨-, -, -, front, k, hbody, hparent⟩ := locate_named d p parent name slash h
  refine ⟨⟨front, ⟨_, hbody.symm⟩, eq_reach_of_foldlM d _ parent front hparent⟩, ?_⟩
  exact place_of_locate h ▸ onWay_place d.here p

/-- Looking the name up that a path ends in leads to the place of the path. -/
theorem step_named {parent l : Location} {name : String} {slash : Bool}
    (h : d.locate p = .ok (.named parent name slash)) (hs : d.step parent name = .ok l) :
    l = place d.here p := by
  obtain ⟨-, hidle, hdots, -⟩ := locate_named d p parent name slash h
  obtain ⟨-, -, rfl, -⟩ := (step_eq_ok_iff d parent l name).mp hs
  simp [place_of_locate h, enter, hidle, hdots]

/-- Making a directory succeeds only for a new name in a directory that is there. -/
theorem makeDirectory_inv (d d' : Disk) (p : Path) (h : d.makeDirectory p = .ok d') :
    Usable p ∧ ∃ front last k, p.body = front ++ last :: List.replicate k "" ∧
      Path.isIdle last = false ∧ last ≠ ".." ∧ isTooLong last = false ∧
      d.Walk (origin d.here p) front ∧ d.entry? (last :: reach (origin d.here p) front) = none ∧
      d.Sets d' (last :: reach (origin d.here p) front) (some .directory) := by
  cases hfound : d.locate p with
  | error e => simp [makeDirectory, hfound] at h
  | ok found =>
    cases found with
    | directory l => simp [makeDirectory, hfound] at h
    | named parent last slash =>
      obtain ⟨hu, hidle, hdots, front, k, hbody, hparent⟩ :=
        locate_named d p parent last slash hfound
      simp only [makeDirectory, hfound, ok_bind, throw_eq_error, pure_eq_ok] at h
      split_ifs at h with hdir hlong hfree
      obtain rfl := Except.ok.inj h
      obtain ⟨hwalk, rfl⟩ := (foldlM_step_iff d _ _ front).mp ⟨hparent, hdir⟩
      exact ⟨hu, front, last, k, hbody, hidle, hdots, by simpa using hlong, hwalk, hfree,
        sets_put d _ last .directory hdir (by simp [hfree])⟩

/-- A directory is made where nothing was, and is there afterwards. -/
theorem makeDirectory_ok (d d' : Disk) (p : Path) (h : d.makeDirectory p = .ok d') :
    d.entry? (place d.here p) = none ∧ d.Sets d' (place d.here p) (some .directory) ∧
      d'.Open p := by
  obtain ⟨hu, front, last, k, hbody, hidle, hdots, hshort, hwalk, hfree, hsets⟩ :=
    makeDirectory_inv d d' p h
  have henter : enter (reach (origin d.here p) front) last =
      last :: reach (origin d.here p) front := by
    simp [enter, hidle, hdots]
  have hplace := place_of_name d.here p front last k hbody hidle hdots
  have hkept : ∀ l, d.entry? l = some .directory → d'.entry? l = some .directory := by
    intro l hl
    by_cases heq : l = last :: reach (origin d.here p) front
    · rw [heq]
      exact hsets.at
    · rwa [hsets.of_ne heq]
  refine ⟨hplace ▸ hfree, hplace ▸ hsets, hu, ?_⟩
  rw [hsets.here, hbody, walk_last_iff, henter]
  exact ⟨⟨fun f hf => hkept _ (hwalk.directory f hf), hwalk.short⟩, hshort, hsets.at⟩

/-- A write that succeeds has set the file at the place of its path, where no directory was. -/
theorem write_inv (d d' : Disk) (p : Path) (bytes : ByteArray) (h : d.write p bytes = .ok d') :
    d.entry? (place d.here p) ≠ some .directory ∧
      d.Sets d' (place d.here p) (some (.file bytes)) := by
  cases hfound : d.locate p with
  | error e => simp [Disk.write, hfound] at h
  | ok found =>
    cases found with
    | directory l => simp [Disk.write, hfound] at h
    | named parent name slash =>
      rw [place_of_locate hfound]
      simp only [Disk.write, hfound, ok_bind, throw_eq_error, pure_eq_ok] at h
      split_ifs at h with hparent hslash hlong hfree
      obtain rfl := Except.ok.inj h
      exact ⟨hfree, sets_put d parent name _ hparent hfree⟩

/-- A removal that succeeds has left nothing at the place of its path. -/
theorem remove_inv (d d' : Disk) (p : Path) (h : d.remove p = .ok d') :
    d.Sets d' (place d.here p) none := by
  cases hfound : d.locate p with
  | error e => simp [Disk.remove, hfound] at h
  | ok found =>
    cases found with
    | directory l => simp [Disk.remove, hfound] at h
    | named parent name slash =>
      simp only [Disk.remove, hfound, ok_bind] at h
      cases hstep : d.step parent name with
      | error e => simp [hstep] at h
      | ok l =>
        simp only [hstep, ok_bind, throw_eq_error, pure_eq_ok] at h
        split_ifs at h with hdir hslash
        obtain rfl := Except.ok.inj h
        rw [← step_named hfound hstep]
        exact sets_drop d l hdir

/-- A move that succeeds has set the file at its new place, where no directory was, and has left
nothing at the old one if that is another. -/
theorem move_inv (d d' : Disk) (p q : Path) (h : d.move p q = .ok d') :
    d.entry? (place d.here q) ≠ some .directory ∧
      ∃ bytes d₁, d.Sets d₁ (place d.here q) (some (.file bytes)) ∧
        (d' = d₁ ∨ d₁.Sets d' (place d.here p) none) := by
  cases hsource : d.locate p with
  | error e => simp [Disk.move, hsource] at h
  | ok source =>
    cases htarget : d.locate q with
    | error e => simp [Disk.move, hsource, htarget] at h
    | ok target =>
      simp only [Disk.move, hsource, htarget, ok_bind] at h
      cases source with
      | directory l => simp at h
      | named oldParent oldName oldSlash =>
        cases target with
        | directory l => simp at h
        | named newParent newName newSlash =>
          rw [place_of_locate htarget]
          cases hstep : d.step oldParent oldName with
          | error e => simp [hstep] at h
          | ok l =>
            simp only [hstep, ok_bind, throw_eq_error, pure_eq_ok] at h
            rcases hentry : d.entry? l with ⟨⟩ | ⟨bytes⟩ | ⟨⟩
            · simp [hentry] at h
            · simp only [hentry] at h
              -- A file that is moved to its own place is only put there again.
              split_ifs at h with hparent hlong hslash hfree hsame hdir
              · obtain rfl := Except.ok.inj h
                exact ⟨hfree, bytes, _, sets_put d newParent newName _ hparent hfree, Or.inl rfl⟩
              · obtain rfl := Except.ok.inj h
                refine ⟨hfree, bytes, _, sets_put d newParent newName _ hparent hfree, Or.inr ?_⟩
                rw [← step_named hsource hstep]
                exact sets_drop _ l hdir
            · simp [hentry] at h

/-- A system takes the path: its text can be one, and none of its names is too long. -/
structure Fits (p : Path) : Prop where
  usable : Usable p
  short : ∀ s ∈ p.body, isTooLong s = false

/-- The path ends in a name, and the directory that this name is in is there. -/
def HasFolder (d : Disk) (p : Path) : Prop :=
  ∃ folder n, d.Open folder ∧ Path.IsName n ∧ p = folder.down [n]

theorem origin_down (here : Location) (p : Path) (names : List String)
    (hn : ∀ n ∈ names, Path.IsName n) : origin here (p.down names) = origin here p := by
  by_cases hne : names = []
  · simp [hne, Path.down]
  · simp only [origin, Path.anchor_down p names hn hne, (Path.anchored_segments p).1]

theorem reach_body (l : Location) (p : Path) : reach l p.body = reach l (Path.lead p.stem).2 := by
  rcases (Path.anchored_segments p).2 with hb | hb
  · rw [hb]
  · rw [hb, reach_append]
    rfl

/-- The place of a path that leads down from another is below that of the other. -/
theorem place_down (here : Location) (p : Path) (names : List String)
    (hn : ∀ n ∈ names, Path.IsName n) :
    place here (p.down names) = names.reverse ++ place here p := by
  by_cases hne : names = []
  · simp [hne, Path.down]
  · rw [place, place, origin_down here p names hn, Path.body_down p names hn hne, reach_append,
      reach_names _ names hn, reach_body]

theorem walk_body_iff (d : Disk) (p : Path) (l : Location) :
    d.Walk l p.body ↔ d.Walk l (Path.lead p.stem).2 := by
  rcases (Path.anchored_segments p).2 with hb | hb
  · rw [hb]
  · rw [hb, walk_append_iff]
    constructor
    · exact fun h => h.1
    · intro h
      exact ⟨h, (walk_empties_iff d _ 1).mpr (h.directory _ List.prefix_rfl)⟩

theorem short_body_iff (p : Path) :
    (∀ s ∈ p.body, isTooLong s = false) ↔ ∀ s ∈ (Path.lead p.stem).2, isTooLong s = false := by
  have hempty : isTooLong "" = false := by decide
  rcases (Path.anchored_segments p).2 with hb | hb
  · rw [hb]
  · rw [hb]
    constructor
    · exact fun h s hs => h s (by simp [hs])
    · intro h s hs
      rcases List.mem_append.mp hs with hs | hs
      · exact h s hs
      · rw [List.mem_singleton.mp hs]
        exact hempty

theorem fits_child_iff (d : Disk) (folder : Path) (n : String) (h : d.Open folder)
    (hn : Path.IsName n) :
    Fits (folder.down [n]) ↔ Usable (folder.down [n]) ∧ isTooLong n = false := by
  have hbody : (folder.down [n]).body = (Path.lead folder.stem).2 ++ [n] :=
    Path.body_down folder [n] (by simpa using hn) (by simp)
  constructor
  · intro hf
    exact ⟨hf.usable, hf.short n (by simp [hbody])⟩
  · rintro ⟨hu, hshort⟩
    refine ⟨hu, fun s hs => ?_⟩
    rw [hbody] at hs
    rcases List.mem_append.mp hs with hs | hs
    · exact (short_body_iff folder).mp h.walk.short s hs
    · rw [List.mem_singleton.mp hs]
      exact hshort

/-- A path that has room for a name in a directory has room for the directory. -/
theorem fits_of_child (folder : Path) (n : String) (hn : Path.IsName n)
    (hempty : folder.isEmpty = false) (h : Fits (folder.down [n])) : Fits folder := by
  have hbody : (folder.down [n]).body = (Path.lead folder.stem).2 ++ [n] :=
    Path.body_down folder [n] (by simpa using hn) (by simp)
  obtain ⟨slash, htext⟩ := Path.text_down_name folder
  have hzero := h.usable.no_zero
  have hlong := h.usable.short
  rw [htext n hn] at hzero hlong
  refine ⟨⟨fun c hc => hzero c (by simp [hc]), hempty, ?_⟩, ?_⟩
  · simp only [String.utf8ByteSize_append] at hlong
    omega
  · rw [short_body_iff]
    intro s hs
    exact h.short s (by rw [hbody]; exact List.mem_append_left _ hs)

/-- Short names make a path that is not much longer than they are many. -/
theorem utf8ByteSize_intercalate_le (ss : List String)
    (hshort : ∀ s ∈ ss, s.utf8ByteSize ≤ 255) :
    ("/".intercalate ss).utf8ByteSize ≤ 256 * ss.length := by
  induction ss with
  | nil => simp
  | cons s rest ih =>
    have hs := hshort s List.mem_cons_self
    have hrest := ih fun r hr => hshort r (List.mem_cons_of_mem s hr)
    by_cases hnil : rest = []
    · subst hnil
      simp only [String.intercalate_singleton, List.length_singleton]
      omega
    · have hslash : "/".utf8ByteSize = 1 := by decide
      rw [String.intercalate_cons_of_ne_nil hnil, String.utf8ByteSize_append,
        String.utf8ByteSize_append, List.length_cons, hslash]
      omega

/-- A path that leads down by names fits if none of its segments is too long and there are fewer
than sixteen. -/
theorem fits_down (p : Path) (names : List String) (hn : ∀ n ∈ names, Path.IsName n)
    (hne : names ≠ [])
    (hsegments : ∀ s ∈ p.stem ++ names, isTooLong s = false ∧ Char.ofNat 0 ∉ s.toList)
    (hfew : (p.stem ++ names).length < 16) :
    Fits (p.down names) := by
  have htext : (p.down names).text = "/".intercalate (p.stem ++ names) := by
    rw [Path.down_eq_ofSegments p names hn hne]
    rfl
  have hsize := utf8ByteSize_intercalate_le (p.stem ++ names) fun s hs => by
    simpa [isTooLong] using (hsegments s hs).1
  refine ⟨⟨fun c hc => ?_, Path.isEmpty_down p names hn hne, ?_⟩, fun s hs => ?_⟩
  · rw [htext, String.toList_intercalate] at hc
    rcases Path.eq_or_mem_of_mem_intercalate '/' c _ hc with rfl | ⟨piece, hpiece, hcs⟩
    · decide
    · intro hzero
      obtain ⟨s, hs, rfl⟩ := List.mem_map.mp hpiece
      have hc : c = Char.ofNat 0 := by rw [← hzero, Char.ofNat_toNat]
      exact (hsegments s hs).2 (hc ▸ hcs)
  · -- So few segments cannot be longer than a path may be.
    rw [htext]
    omega
  · -- The segments after the start are among those of the stem.
    have hlead : ∀ s ∈ (Path.lead p.stem).2, s ∈ p.stem := by
      intro s hs
      cases hstem : p.stem with
      | nil => simp [Path.lead, hstem] at hs
      | cons first rest =>
        rw [hstem, Path.lead] at hs
        split_ifs at hs
        · exact List.mem_cons_of_mem first hs
        · exact List.mem_cons_of_mem first hs
        · exact hs
    rw [Path.body_down p names hn hne] at hs
    rcases List.mem_append.mp hs with hs | hs
    · exact (hsegments s (List.mem_append_left _ (hlead s hs))).1
    · exact (hsegments s (List.mem_append_right _ hs)).1

theorem place_child (here : Location) (folder : Path) (n : String) (hn : Path.IsName n) :
    place here (folder.down [n]) = n :: place here folder := by
  simpa using place_down here folder [n] (by simpa using hn)

/-- An empty last segment adds nothing to the way of a path. -/
theorem onWay_iff_lead (here : Location) (p : Path) (l : Location) :
    OnWay here p l ↔
      ∃ front, front <+: (Path.lead p.stem).2 ∧ l = reach (origin here p) front := by
  rcases (Path.anchored_segments p).2 with hb | hb
  · rw [OnWay, hb]
  · constructor
    · rintro ⟨front, hfront, rfl⟩
      rw [hb, List.prefix_concat_iff] at hfront
      rcases hfront with rfl | hfront
      · refine ⟨_, List.prefix_rfl, ?_⟩
        rw [reach_append]
        rfl
      · exact ⟨front, hfront, rfl⟩
    · rintro ⟨front, hfront, rfl⟩
      refine ⟨front, hfront.trans ?_, rfl⟩
      rw [hb]
      exact List.prefix_append _ _

/-- The way to a name in a directory is that to the directory, and the name's own place. -/
theorem onWay_child_iff (here : Location) (folder : Path) (n : String) (hn : Path.IsName n)
    (l : Location) :
    OnWay here (folder.down [n]) l ↔
      OnWay here folder l ∨ l = place here (folder.down [n]) := by
  have hnames : ∀ m ∈ [n], Path.IsName m := by simpa using hn
  have hbody := Path.body_down folder [n] hnames (by simp)
  have horigin := origin_down here folder [n] hnames
  rw [onWay_iff_lead here folder]
  constructor
  · rintro ⟨front, hfront, rfl⟩
    -- A part of the way is all of it, or a part of the way to the folder.
    rw [hbody, List.prefix_concat_iff] at hfront
    rcases hfront with rfl | hfront
    · right
      rw [place, hbody]
    · exact Or.inl ⟨front, hfront, by rw [horigin]⟩
  · rintro (⟨front, hfront, rfl⟩ | rfl)
    · refine ⟨front, ?_, by rw [horigin]⟩
      rw [hbody]
      exact hfront.trans (List.prefix_append _ _)
    · exact onWay_place here _

/-- A path to a name in a directory that is there is looked up to just that. -/
theorem locate_child (d : Disk) (folder : Path) (n : String) (h : d.Open folder)
    (hn : Path.IsName n) (hu : Usable (folder.down [n])) :
    d.locate (folder.down [n]) = .ok (.named (place d.here folder) n false) := by
  have hnames : ∀ m ∈ [n], Path.IsName m := by simpa using hn
  have hbody : (folder.down [n]).body = (Path.lead folder.stem).2 ++ n :: List.replicate 0 "" :=
    Path.body_down folder [n] hnames (by simp)
  have hwalk := (walk_body_iff d folder _).mp h.walk
  have hlook := ((foldlM_step_iff d _ _ _).mpr ⟨hwalk, rfl⟩).1
  -- The path ends in a name, so there is no slash after it.
  have hend : ((folder.down [n]).text.toList.getLast? = some '/') = False := by
    have hopen := (Path.ends_open_iff (folder.down [n])).not
    rw [Path.down_eq_ofSegments folder [n] hnames (by simp), Path.segments_ofSegments] at hopen
    · have hslash := hopen.mpr (by simpa using hn.ne_empty)
      rw [← Path.down_eq_ofSegments folder [n] hnames (by simp)] at hslash
      simp only [Bool.or_eq_true, beq_iff_eq, not_or] at hslash
      exact eq_false hslash.2
    · intro s hs
      rcases List.mem_append.mp hs with hs | hs
      · exact Path.no_slash_of_mem_stem folder s hs
      · rw [List.mem_singleton.mp hs]
        exact hn.no_slash
    · simp
  rw [locate_of_last d _ hu _ n 0 hbody hn.ne_empty, origin_down d.here folder [n] hnames, hlook]
  simp only [hn.ne_dot, hn.ne_dots, or_self, if_false, hend, decide_false, place, reach_body,
    ok_bind, pure_eq_ok]

namespace HasFolder

variable {d : Disk} {p : Path}

/-- What is known of the end of the path once its directory is there. -/
theorem locate (h : d.HasFolder p) (hu : Usable p) :
    ∃ parent n, d.locate p = .ok (.named parent n false) ∧ place d.here p = n :: parent ∧
      d.entry? parent = some .directory ∧ Path.IsName n ∧ (Fits p ↔ isTooLong n = false) := by
  obtain ⟨folder, n, hf, hn, rfl⟩ := h
  refine ⟨place d.here folder, n, locate_child d folder n hf hn hu,
    place_child d.here folder n hn, hf.directory_place, hn, ?_⟩
  rw [fits_child_iff d folder n hf hn]
  exact ⟨fun h => h.2, fun h => ⟨hu, h⟩⟩

/-- A directory is at the path if it is in its folder and the path fits. -/
theorem open_iff (h : d.HasFolder p) :
    d.Open p ↔ Fits p ∧ d.entry? (place d.here p) = some .directory := by
  obtain ⟨folder, n, hf, hn, rfl⟩ := h
  have hnames : ∀ m ∈ [n], Path.IsName m := by simpa using hn
  have hbody := Path.body_down folder [n] hnames (by simp)
  have hwalk := (walk_body_iff d folder _).mp hf.walk
  constructor
  · exact fun hopen => ⟨⟨hopen.usable, hopen.walk.short⟩, hopen.directory_place⟩
  · rintro ⟨hfit, hdir⟩
    refine ⟨hfit.usable, ?_⟩
    rw [place, origin_down d.here folder [n] hnames, hbody, reach_append] at hdir
    rw [origin_down d.here folder [n] hnames, hbody, walk_append_iff, walk_singleton_iff]
    exact ⟨hwalk, hwalk.directory _ List.prefix_rfl, hfit.short n (by simp [hbody]), hdir⟩

theorem write (h : d.HasFolder p) (hfit : Fits p)
    (hdir : d.entry? (place d.here p) ≠ some .directory) (bytes : ByteArray) :
    ∃ d', d.write p bytes = .ok d' ∧ d.Sets d' (place d.here p) (some (.file bytes)) := by
  obtain ⟨parent, n, hloc, hplace, hparent, -, hshort⟩ := h.locate hfit.usable
  have hn : isTooLong n = false := hshort.mp hfit
  rw [hplace] at hdir ⊢
  refine ⟨d.put parent n (.file bytes) hparent hdir, ?_, sets_put d parent n _ hparent hdir⟩
  simp [Disk.write, hloc, hparent, hn, hdir]

/-- Nothing but a long name or a directory in its place keeps a file from being written. -/
theorem of_write (h : d.HasFolder p) {bytes : ByteArray} {d' : Disk}
    (hw : d.write p bytes = .ok d') :
    Fits p ∧ d.entry? (place d.here p) ≠ some .directory ∧
      d.Sets d' (place d.here p) (some (.file bytes)) := by
  obtain ⟨hdir, hsets⟩ := write_inv d d' p bytes hw
  refine ⟨?_, hdir, hsets⟩
  by_cases hu : Usable p
  · obtain ⟨parent, n, hloc, -, hparent, -, hshort⟩ := h.locate hu
    by_cases hn : isTooLong n = true
    · simp [Disk.write, hloc, hparent, hn] at hw
    · exact hshort.mpr (by simpa using hn)
  · obtain ⟨e, he⟩ := locate_of_not_usable p hu
    simp [Disk.write, he d] at hw

theorem remove (h : d.HasFolder p) (hfit : Fits p) {bytes : ByteArray}
    (hfile : d.entry? (place d.here p) = some (.file bytes)) :
    ∃ d', d.remove p = .ok d' ∧ d.Sets d' (place d.here p) none := by
  obtain ⟨parent, n, hloc, hplace, hparent, hname, hshort⟩ := h.locate hfit.usable
  rw [hplace] at hfile ⊢
  have hstep : d.step parent n = .ok (n :: parent) := by
    rw [step_eq_ok_iff, enter_name parent n hname]
    exact ⟨hparent, hshort.mp hfit, rfl, by simp [hfile]⟩
  have hdir : d.entry? (n :: parent) ≠ some .directory := by simp [hfile]
  refine ⟨d.drop (n :: parent) (d.not_suffix_here _ hdir), ?_, sets_drop d _ hdir⟩
  simp [Disk.remove, hloc, hstep, hfile]

theorem read (h : d.HasFolder p) (hfit : Fits p) {bytes : ByteArray}
    (hfile : d.entry? (place d.here p) = some (.file bytes)) : d.read p = .ok bytes := by
  obtain ⟨parent, n, hloc, hplace, hparent, hname, hshort⟩ := h.locate hfit.usable
  rw [hplace] at hfile
  have hstep : d.step parent n = .ok (n :: parent) := by
    rw [step_eq_ok_iff, enter_name parent n hname]
    exact ⟨hparent, hshort.mp hfit, rfl, by simp [hfile]⟩
  simp [Disk.read, stat, hloc, hstep, hfile]

theorem move {q : Path} (hp : d.HasFolder p) (hq : d.HasFolder q) (hpfit : Fits p)
    (hqfit : Fits q) (hne : place d.here p ≠ place d.here q) {bytes : ByteArray}
    (hfile : d.entry? (place d.here p) = some (.file bytes))
    (hdir : d.entry? (place d.here q) ≠ some .directory) :
    ∃ d₁ d₂, d.move p q = .ok d₂ ∧ d.Sets d₁ (place d.here q) (some (.file bytes)) ∧
      d₁.Sets d₂ (place d.here p) none := by
  obtain ⟨parent, n, hloc, hplace, hparent, hname, hshort⟩ := hp.locate hpfit.usable
  obtain ⟨parent', n', hloc', hplace', hparent', -, hshort'⟩ := hq.locate hqfit.usable
  rw [hplace] at hfile hne ⊢
  rw [hplace'] at hne hdir ⊢
  have hn' : isTooLong n' = false := hshort'.mp hqfit
  have hstep : d.step parent n = .ok (n :: parent) := by
    rw [step_eq_ok_iff, enter_name parent n hname]
    exact ⟨hparent, hshort.mp hpfit, rfl, by simp [hfile]⟩
  have hput := sets_put d parent' n' (.file bytes) hparent' hdir
  -- The file is still at its old place when that is emptied.
  have hkept : entry? (d.put parent' n' (.file bytes) hparent' hdir) (n :: parent) ≠
      some .directory := by
    rw [hput.of_ne hne, hfile]
    simp
  refine ⟨_, _, ?_, hput, sets_drop _ _ hkept⟩
  simp [Disk.move, hloc, hloc', hstep, hfile, hparent', hn', hdir, hne, hkept]

end HasFolder

/-- A directory cannot be read. -/
theorem Open.read {d : Disk} {p : Path} (h : d.Open p) : d.read p = .error .isDirectory := by
  have hdir := (isDirectory_iff d p).mpr h
  have hstat : d.stat p = .ok .directory := by
    unfold isDirectory at hdir
    split at hdir
    · assumption
    · exact absurd hdir (by simp)
  rw [Disk.read, hstat]
  rfl

/-- On two disks that have the same on the way of a path, making a directory there fails for the
same reason or for none. -/
theorem makeDirectory_congr {d₁ d₂ : Disk} (p : Path) (hhere : d₁.here = d₂.here)
    (h : ∀ l, OnWay d₁.here p l → d₁.entry? l = d₂.entry? l) (e : FileError) :
    d₁.makeDirectory p = .error e ↔ d₂.makeDirectory p = .error e := by
  have hloc := locate_congr p hhere h
  cases hfound : d₂.locate p with
  | error f => simp [makeDirectory, hloc, hfound]
  | ok found =>
    cases found with
    | directory l => simp [makeDirectory, hloc, hfound]
    | named parent name slash =>
      -- Only the place itself and the one above it are asked about.
      obtain ⟨hparent, hname⟩ := onWay_of_locate d₂ p parent name slash hfound
      have hp := h parent (hhere ▸ hparent)
      have hn := h (name :: parent) (hhere ▸ hname)
      simp only [makeDirectory, hloc, hfound, ok_bind]
      by_cases hdir : d₂.entry? parent = some .directory
      · by_cases hlong : isTooLong name = true
        · simp [hp, hdir, hlong]
        · by_cases hfree : d₂.entry? (name :: parent) = none <;>
            simp [hp, hn, hdir, hlong, hfree, pure, Except.pure, throw, throwThe,
              MonadExceptOf.throw]
      · simp [hp, hdir]

end CrudLayer.Disk
