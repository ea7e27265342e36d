import Mathlib
import CrudLayer.Proofs.ConfigChoice

/-!
Which configuration a run has, or why it has none: each case in the order in which it is looked for,
and that it depends on nothing but what is seen at one path.
-/
namespace CrudLayer

/-- Where what is seen at each path is all there is: nothing can be changed there. -/
instance : Files (ReaderM Sights) where
  read p := return ((← read) p).getD (.error .missing)
  readInput := return .error (.other "not supported")
  isPresent p := return ((← read) p).isSome
  isDirectory p := return match (← read) p with
    | some (.error .isDirectory) => true
    | _ => false
  makeDirectory _ := return .error (.other "not supported")
  write _ _ := return .error (.other "not supported")
  move _ _ := return .error (.other "not supported")
  remove _ := return .error (.other "not supported")

instance : Executor (ReaderM Sights) Sights where
  exec x v := ((x.run v).run, v)
  exec_pure _ _ := rfl
  exec_bind _ _ _ := rfl

theorem Executor.sights_shows (v : Sights) : Shows (ReaderM Sights) v v where
  present _ := rfl
  read p content h := by
    have hread : exec (Files.read p : ReaderM Sights _) v = ((v p).getD (.error .missing), v) := rfl
    rw [hread, h, Option.getD_some]

namespace Config

open Executor

/-- A setting that counts: that of the command line, whatever it is, and else that of the file. -/
inductive Counts {α : Type} : Option α → Option α → α → Prop
  | flag (a : α) (file : Option α) : Counts (some a) file a
  | file (a : α) : Counts none (some a) a

/-- What comes of the settings of the command line and of the file: that one is given by neither, or
that one is not valid, or a configuration. -/
inductive Merges (flags file : Settings) : Except ConfigFault Config → Prop
  | packageMissing (hflag : flags.basePackage = none) (hfile : file.basePackage = none) :
    Merges flags file (.error .packageMissing)
  | pathMissing (package : String) (hpackage : Counts flags.basePackage file.basePackage package)
    (hflag : flags.basePath = none) (hfile : file.basePath = none) :
    Merges flags file (.error .pathMissing)
  | packageEmpty (path : Path) (hpackage : Counts flags.basePackage file.basePackage "")
    (hpath : Counts flags.basePath file.basePath path) :
    Merges flags file (.error .packageEmpty)
  | packageSegment (package : String) (path : Path) (before after : List (List Char))
    (segment : List Char) (hpackage : Counts flags.basePackage file.basePackage package)
    (hpath : Counts flags.basePath file.basePath path) (hne : package ≠ "")
    (hcut : package.toList.splitOn '.' = before ++ segment :: after)
    (hbefore : ∀ s ∈ before, s ∈ segmentNames) (hsegment : segment ∉ segmentNames) :
    Merges flags file (.error (.packageSegment package (String.ofList segment)))
  | pathEmpty (package : String) (hpackage : Counts flags.basePackage file.basePackage package)
    (hpath : Counts flags.basePath file.basePath ⟨""⟩) (hvalid : package.toList ∈ packageNames) :
    Merges flags file (.error .pathEmpty)
  | valid (package : String) (path : Path)
    (hpackage : Counts flags.basePackage file.basePackage package)
    (hpath : Counts flags.basePath file.basePath path) (hvalid : package.toList ∈ packageNames)
    (hne : path.text ≠ "") :
    Merges flags file (.ok ⟨package, path⟩)

/-- What is wrong with the file: it was asked for and is not there, or it is there and no settings
can be had from it. -/
inductive Fails (v : Sights) (explicit changeset : Option Path) : ConfigFailure → Prop
  | missing (p : Path) (hasked : explicit = some p) (hp : v p = none) :
    Fails v explicit changeset (.fileMissing p)
  | unreadable (p : Path) (e : FileError) (hp : p ∈ lookedAt? explicit changeset)
    (hcontent : v p = some (.error e)) :
    Fails v explicit changeset (.fileUnreadable p e)
  | notText (p : Path) (bytes : ByteArray) (fault : Text.Utf8.Fault)
    (hp : p ∈ lookedAt? explicit changeset) (hcontent : v p = some (.ok bytes))
    (hbytes : Text.Utf8.decode bytes = .error fault) :
    Fails v explicit changeset (.fileUnreadable p .notText)
  | malformed (p : Path) (bytes : ByteArray) (text : String)
    (hp : p ∈ lookedAt? explicit changeset) (hcontent : v p = some (.ok bytes))
    (hbytes : Text.Utf8.decode bytes = .ok text) (htext : Settings.ofDocument? text = none) :
    Fails v explicit changeset (.fileMalformed p)

/-- The settings of the file, or none where no file was asked for and none lies beside the
changeset. -/
inductive Supplies (v : Sights) : Option Path → Option Path → Settings → Prop
  | nothing (changeset : Option Path) (h : ∀ p ∈ lookedAt? none changeset, v p = none) :
    Supplies v none changeset {}
  | document (explicit changeset : Option Path) (p : Path) (bytes : ByteArray) (text : String)
    (settings : Settings) (hp : p ∈ lookedAt? explicit changeset)
    (hcontent : v p = some (.ok bytes)) (hbytes : Text.Utf8.decode bytes = .ok text)
    (htext : Settings.ofDocument? text = some settings) :
    Supplies v explicit changeset settings

/-- What is chosen. Anything that is wrong with the file comes before what is wrong with the
settings, even where no setting of the file would count. -/
inductive IsChoice (v : Sights) (flags : Settings) (explicit changeset : Option Path) :
    Except ConfigFailure Config → Prop
  | failed (f : ConfigFailure) (h : Fails v explicit changeset f) :
    IsChoice v flags explicit changeset (.error f)
  | merged (file : Settings) (r : Except ConfigFault Config)
    (hfile : Supplies v explicit changeset file) (hr : Merges flags file r) :
    IsChoice v flags explicit changeset (r.mapError .invalid)

/-- The setting that counts is the first that is there. -/
theorem counts_iff {α : Type} (flag file : Option α) (a : α) :
    Counts flag file a ↔ (flag <|> file) = some a := by
  constructor
  · rintro (⟨a, file⟩ | ⟨a⟩) <;> rfl
  · intro h
    cases flag with
    | some b =>
      rw [← Option.some.inj (h : some b = some a)]
      exact .flag b file
    | none =>
      rw [show file = some a from h]
      exact .file a

theorem resolve_of_counts {flags file : Settings} {package : String} {path : Path}
    (hpackage : Counts flags.basePackage file.basePackage package)
    (hpath : Counts flags.basePath file.basePath path) :
    (flags.orElse file).resolve = validate package path := by
  rw [counts_iff] at hpackage hpath
  simp only [Settings.resolve, Settings.orElse, hpackage, hpath]

theorem validate_of_fault {package : String} {fault : ConfigFault} (path : Path)
    (h : checkPackage package = .error fault) : validate package path = .error fault := by
  rw [validate, h]
  rfl

/-- With a package of the grammar, only the empty path can be wrong. -/
theorem validate_of_grammar {package : String} (path : Path)
    (h : package.toList ∈ packageNames) :
    validate package path = if path.text = "" then .error .pathEmpty else .ok ⟨package, path⟩ := by
  rw [← checkPackage_eq_ok_iff] at h
  rw [validate, h]
  by_cases hempty : path.text = ""
  · rw [if_pos hempty, if_pos (by simpa [Path.isEmpty, String.isEmpty_iff] using hempty)]
    rfl
  · rw [if_neg hempty, if_neg (by simpa [Path.isEmpty, String.isEmpty_iff] using hempty)]
    rfl

/-- The rules of `Merges` give what is computed. -/
theorem Merges.eq_resolve {flags file : Settings} {r : Except ConfigFault Config}
    (h : Merges flags file r) : (flags.orElse file).resolve = r := by
  cases h with
  | packageMissing hflag hfile =>
    simp only [Settings.resolve, Settings.orElse, hflag, hfile]
    rfl
  | pathMissing package hpackage hflag hfile =>
    rw [counts_iff] at hpackage
    simp only [Settings.resolve, Settings.orElse, hpackage, hflag, hfile]
    rfl
  | packageEmpty path hpackage hpath =>
    rw [resolve_of_counts hpackage hpath]
    exact validate_of_fault path rfl
  | packageSegment package path before after segment hpackage hpath hne hcut hbefore hsegment =>
    rw [resolve_of_counts hpackage hpath]
    exact validate_of_fault path
      (checkPackage_of_first package hne before segment after hcut hbefore hsegment)
  | pathEmpty package hpackage hpath hvalid =>
    rw [resolve_of_counts hpackage hpath, validate_of_grammar _ hvalid, if_pos rfl]
  | valid package path hpackage hpath hvalid hne =>
    rw [resolve_of_counts hpackage hpath, validate_of_grammar _ hvalid, if_neg hne]

theorem merges_of_counts {flags file : Settings} {package : String} {path : Path}
    (hpackage : Counts flags.basePackage file.basePackage package)
    (hpath : Counts flags.basePath file.basePath path) : ∃ r, Merges flags file r := by
  by_cases hempty : package = ""
  · subst hempty
    exact ⟨_, .packageEmpty path hpackage hpath⟩
  by_cases hvalid : package.toList ∈ packageNames
  · by_cases hpathEmpty : path.text = ""
    · obtain ⟨text⟩ := path
      obtain rfl : text = "" := hpathEmpty
      exact ⟨_, .pathEmpty package hpackage hpath hvalid⟩
    · exact ⟨_, .valid package path hpackage hpath hvalid hpathEmpty⟩
  · obtain ⟨before, segment, after, hcut, hbefore, hsegment⟩ := exists_first_of_not_mem _ hvalid
    exact ⟨_, .packageSegment package path before after segment hpackage hpath hempty hcut hbefore
      hsegment⟩

theorem eq_none_or_counts {α : Type} (flag file : Option α) :
    flag = none ∧ file = none ∨ ∃ a, Counts flag file a := by
  cases flag with
  | some a => exact .inr ⟨a, .flag a file⟩
  | none =>
    cases file with
    | some a => exact .inr ⟨a, .file a⟩
    | none => exact .inl ⟨rfl, rfl⟩

/-- In every case one of the rules applies. -/
theorem exists_merges (flags file : Settings) : ∃ r, Merges flags file r := by
  rcases eq_none_or_counts flags.basePackage file.basePackage with
    ⟨hflag, hfile⟩ | ⟨package, hpackage⟩
  · exact ⟨_, .packageMissing hflag hfile⟩
  rcases eq_none_or_counts flags.basePath file.basePath with ⟨hflag, hfile⟩ | ⟨path, hpath⟩
  · exact ⟨_, .pathMissing package hpackage hflag hfile⟩
  · exact merges_of_counts hpackage hpath

/-- What is wrong with the file is what comes of looking for it. -/
theorem Fails.supplied {v : Sights} {explicit changeset : Option Path} {f : ConfigFailure}
    (h : Fails v explicit changeset f) : (supplied v explicit changeset).1 = .error f := by
  cases h with
  | missing p hasked hp =>
    subst hasked
    rw [supplied_of_missing changeset hp]
  | unreadable p e hp hcontent =>
    rw [supplied_of_seen hp hcontent]
    rfl
  | notText p bytes fault hp hcontent hbytes =>
    rw [supplied_of_seen hp hcontent]
    simp only [settingsIn, hbytes]
  | malformed p bytes text hp hcontent hbytes htext =>
    rw [supplied_of_seen hp hcontent]
    simp only [settingsIn, hbytes, htext]

theorem Supplies.supplied {v : Sights} {explicit changeset : Option Path} {file : Settings}
    (h : Supplies v explicit changeset file) : (supplied v explicit changeset).1 = .ok file := by
  cases h with
  | nothing changeset h => rw [supplied_of_none h]
  | document explicit changeset p bytes text settings hp hcontent hbytes htext =>
    rw [supplied_of_seen hp hcontent]
    simp only [settingsIn, hbytes, htext]

theorem fails_or_supplies_of_seen {v : Sights} {explicit changeset : Option Path} {p : Path}
    {content : Except FileError ByteArray} (hp : p ∈ lookedAt? explicit changeset)
    (hcontent : v p = some content) :
    (∃ f, Fails v explicit changeset f) ∨ ∃ file, Supplies v explicit changeset file := by
  cases content with
  | error e => exact .inl ⟨_, .unreadable p e hp hcontent⟩
  | ok bytes =>
    cases hbytes : Text.Utf8.decode bytes with
    | error fault => exact .inl ⟨_, .notText p bytes fault hp hcontent hbytes⟩
    | ok text =>
      cases htext : Settings.ofDocument? text with
      | none => exact .inl ⟨_, .malformed p bytes text hp hcontent hbytes htext⟩
      | some settings =>
        exact .inr ⟨_, .document explicit changeset p bytes text settings hp hcontent hbytes htext⟩

/-- Either something is wrong with the file, or it supplies settings. -/
theorem fails_or_supplies (v : Sights) (explicit changeset : Option Path) :
    (∃ f, Fails v explicit changeset f) ∨ ∃ file, Supplies v explicit changeset file := by
  by_cases hseen : ∃ p ∈ lookedAt? explicit changeset, ∃ content, v p = some content
  · obtain ⟨p, hp, content, hcontent⟩ := hseen
    exact fails_or_supplies_of_seen hp hcontent
  · have hnone : ∀ p ∈ lookedAt? explicit changeset, v p = none := by
      intro p hp
      rw [Option.eq_none_iff_forall_ne_some]
      exact fun content hcontent => hseen ⟨p, hp, content, hcontent⟩
    cases explicit with
    | some p => exact .inl ⟨_, .missing p rfl (hnone p rfl)⟩
    | none => exact .inr ⟨_, .nothing changeset hnone⟩

/-- What is chosen where this is seen, and the events of choosing it. -/
def chosen (v : Sights) (flags : Settings) (explicit changeset : Option Path) :
    Except ConfigFailure Config × Log :=
  (outcome (choose flags explicit changeset : Logged ConfigFailure (ReaderM Sights) Config) [] v).1

theorem chosen_eq (v : Sights) (flags : Settings) (explicit changeset : Option Path) :
    chosen v flags explicit changeset =
      ((supplied v explicit changeset).1.bind fun file =>
          (flags.orElse file).resolve.mapError .invalid,
        (supplied v explicit changeset).2) := by
  rw [chosen, outcome_choose (sights_shows v), List.nil_append]

/-- The rules of `IsChoice` give what is chosen, so no two of them disagree. -/
theorem IsChoice.eq_chosen {v : Sights} {flags : Settings} {explicit changeset : Option Path}
    {r : Except ConfigFailure Config} (h : IsChoice v flags explicit changeset r) :
    (chosen v flags explicit changeset).1 = r := by
  rw [chosen_eq]
  cases h with
  | failed f hf =>
    rw [hf.supplied]
    rfl
  | merged file r hfile hr =>
    rw [hfile.supplied, ← hr.eq_resolve]
    rfl

theorem exists_isChoice (v : Sights) (flags : Settings) (explicit changeset : Option Path) :
    ∃ r, IsChoice v flags explicit changeset r := by
  rcases fails_or_supplies v explicit changeset with ⟨f, hf⟩ | ⟨file, hfile⟩
  · exact ⟨_, .failed f hf⟩
  · obtain ⟨r, hr⟩ := exists_merges flags file
    exact ⟨_, .merged file r hfile hr⟩

/-- What is seen elsewhere makes no difference. -/
theorem supplied_congr {v v' : Sights} {explicit changeset : Option Path}
    (h : ∀ p ∈ lookedAt? explicit changeset, v p = v' p) :
    supplied v explicit changeset = supplied v' explicit changeset := by
  unfold supplied
  cases hlooked : lookedAt? explicit changeset with
  | none => rfl
  | some p => simp only [h p hlooked]

/-- Whatever is seen, one thing is chosen, and it is what comes first in the order of `IsChoice`.
What is seen at other paths than the one that is looked at makes no difference, to what is recorded
neither. It is no different on a machine, which is left as it was. -/
theorem choice_in_order (flags : Settings) (explicit changeset : Option Path) :
    (∀ v r, (chosen v flags explicit changeset).1 = r ↔ IsChoice v flags explicit changeset r) ∧
    (∀ v v' : Sights, (∀ p ∈ lookedAt? explicit changeset, v p = v' p) →
      chosen v flags explicit changeset = chosen v' flags explicit changeset) ∧
    (∀ m : Machine, (choose flags explicit changeset).on [] m =
      (chosen m.disk.sights flags explicit changeset, m)) ∧
    ∀ p, (ConfigFailure.fileMissing p).message = "Config file not found: " ++ p.text := by
  refine ⟨fun v r => ⟨?_, IsChoice.eq_chosen⟩, fun v v' h => ?_, fun m => ?_, fun p => ?_⟩
  · rintro rfl
    obtain ⟨r, hr⟩ := exists_isChoice v flags explicit changeset
    rwa [hr.eq_chosen]
  · rw [chosen_eq, chosen_eq, supplied_congr h]
  · rw [chosen_eq]
    exact outcome_choose (machine_shows m) flags explicit changeset []
  · rfl

def besideChangeset (elsewhere : Option (Except FileError ByteArray)) : Sights := fun p =>
  if p = ⟨"db/crudforge.toml"⟩ then
    some (.ok "base_package = \"com.acme\"\nbase_path = \"gen\"\n".toUTF8)
  else elsewhere

/-- The package is that of the file and the path that of the command line, and directories at all
other paths make no difference. -/
theorem choice_in_order_beside_changeset :
    (chosen (besideChangeset none) { basePath := some ⟨"out"⟩ } none
      (some ⟨"db/changeset.xml"⟩)).1 = .ok ⟨"com.acme", ⟨"out"⟩⟩ ∧
    chosen (besideChangeset none) { basePath := some ⟨"out"⟩ } none (some ⟨"db/changeset.xml"⟩) =
      chosen (besideChangeset (some (.error .isDirectory))) { basePath := some ⟨"out"⟩ } none
        (some ⟨"db/changeset.xml"⟩) := by
  have hlooked : lookedAt? none (some ⟨"db/changeset.xml"⟩) = some ⟨"db/crudforge.toml"⟩ := by
    decide
  obtain ⟨hiff, hcongr, -⟩ :=
    choice_in_order { basePath := some ⟨"out"⟩ } none (some ⟨"db/changeset.xml"⟩)
  refine ⟨(hiff _ _).mpr ?_, hcongr _ _ ?_⟩
  · -- The document beside the changeset has both settings, and the flag overrules one of them.
    have hfile : Supplies (besideChangeset none) none (some ⟨"db/changeset.xml"⟩)
        ⟨some "com.acme", some ⟨"gen"⟩⟩ :=
      .document _ _ _ _ "base_package = \"com.acme\"\nbase_path = \"gen\"\n" _ hlooked rfl
        (by decide +kernel) (by cbv)
    have hvalid : "com.acme".toList ∈ packageNames :=
      (checkPackage_eq_ok_iff "com.acme").mp (by decide +kernel)
    exact .merged _ (.ok ⟨"com.acme", ⟨"out"⟩⟩) hfile
      (.valid _ _ (.file _) (.flag _ _) hvalid (by decide))
  · intro p hp
    rw [hlooked, Option.mem_some_iff] at hp
    rw [← hp]
    rfl

end Config
end CrudLayer
