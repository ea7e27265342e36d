import Mathlib
import CrudLayer.Proofs.StoredApart

namespace CrudLayer

namespace Naming

/-- The words that no variable may be called by. -/
def reservedWords : List String := [
  "abstract", "assert", "boolean", "break", "byte", "case", "catch", "char", "class", "const",
  "continue", "default", "do", "double", "else", "enum", "extends", "final", "finally", "float",
  "for", "goto", "if", "implements", "import", "instanceof", "int", "interface", "long", "native",
  "new", "package", "private", "protected", "public", "return", "short", "static", "strictfp",
  "super", "switch", "synchronized", "this", "throw", "throws", "transient", "try", "void",
  "volatile", "while", "_", "true", "false", "null"]

/-- Reserved words are made of small letters, but for the lone underscore. -/
theorem isWord_of_mem_reservedWords : ∀ w ∈ reservedWords, w = "_" ∨ IsWord w.toList := by
  decide

def underscores (n : Nat) : List Char := List.replicate n '_'

theorem underscores_succ (n : Nat) : underscores (n + 1) = '_' :: underscores n := rfl

theorem camel_underscores_append (n : Nat) (raise : Bool) (cs : List Char) :
    camel raise (underscores n ++ cs) = camel (raise || decide (0 < n)) cs := by
  induction n generalizing raise with
  | zero => simp [underscores]
  | succ n ih =>
    rw [underscores_succ, List.cons_append]
    simp [camel, ih true]

theorem exists_underscores_append (cs : List Char) :
    (∃ n, cs = underscores n) ∨ ∃ n c rest, c ≠ '_' ∧ cs = underscores n ++ c :: rest := by
  induction cs with
  | nil => exact Or.inl ⟨0, rfl⟩
  | cons c cs ih =>
    by_cases hc : c = '_'
    · rw [hc]
      rcases ih with ⟨n, hn⟩ | ⟨n, d, rest, hd, hn⟩
      · exact Or.inl ⟨n + 1, by rw [hn, underscores_succ]⟩
      · exact Or.inr ⟨n + 1, d, rest, hd, by rw [hn, underscores_succ, List.cons_append]⟩
    · exact Or.inr ⟨0, c, cs, hc, rfl⟩

/-- Nothing is left of underscores alone. -/
theorem camel_underscores (n : Nat) (raise : Bool) : camel raise (underscores n) = [] := by
  have h := camel_underscores_append n raise []
  rwa [List.append_nil] at h

/-- Where all that remains is small, only underscores have been passed since one was. -/
theorem camel_true_small (cs : List Char) (h : ∀ c ∈ camel true cs, c.isLower = true) :
    ∃ n, cs = underscores n := by
  rcases exists_underscores_append cs with hn | ⟨n, c, rest, hc, rfl⟩
  · exact hn
  · exfalso
    have hcamel : camel true (underscores n ++ c :: rest) = Text.upper c ++ camel false rest := by
      rw [camel_underscores_append]
      simp [camel, hc]
    obtain ⟨d, ds, hd⟩ := List.exists_cons_of_ne_nil (Text.upper_ne_nil c)
    have hsmall := h d (by simp [hcamel, hd])
    rw [Text.not_isLower_of_mem_upper c d (by simp [hd])] at hsmall
    exact absurd hsmall (by decide)

/-- A name whose form has small letters only is that form, with underscores after it. -/
theorem eq_append_underscores (cs : List Char) (h : ∀ c ∈ camel false cs, c.isLower = true) :
    ∃ n, cs = camel false cs ++ underscores n := by
  induction cs with
  | nil => exact ⟨0, rfl⟩
  | cons c cs ih =>
    by_cases hc : c = '_'
    · have hcamel : camel false (c :: cs) = camel true cs := by simp [camel, hc]
      rw [hcamel] at h ⊢
      obtain ⟨n, rfl⟩ := camel_true_small cs h
      exact ⟨n + 1, by rw [camel_underscores, hc, underscores_succ, List.nil_append]⟩
    · have hcamel : camel false (c :: cs) = c :: camel false cs := by simp [camel, hc]
      rw [hcamel] at h ⊢
      obtain ⟨n, hn⟩ := ih fun d hd => h d (by simp [hd])
      exact ⟨n, by rw [List.cons_append, ← hn]⟩

theorem camel_small_append (w : List Char) (hw : ∀ c ∈ w, c.isLower = true) (n : Nat) :
    camel false (w ++ underscores n) = w := by
  have hno : '_' ∉ w := fun hmem => absurd (hw '_' hmem) (by decide)
  rw [camel_append w _ hno, camel_underscores, List.append_nil]

/-- A word of small letters comes out of a name exactly if the name is that word and underscores
after it. -/
theorem camel_eq_word_iff (cs w : List Char) (hw : IsWord w) :
    camel false cs = w ↔ ∃ n, cs = w ++ underscores n := by
  constructor
  · rintro rfl
    exact eq_append_underscores cs hw.small
  · rintro ⟨n, rfl⟩
    exact camel_small_append w hw.small n

theorem capital_cons_small (c : Char) (w : List Char) (hc : c.isLower = true) :
    capital (c :: w) = c.toUpper :: w := by
  rw [capital, Text.upper_ascii c (ascii_of_isLower c hc), List.singleton_append]

theorem isUpper_toUpper (c : Char) (hc : c.isLower = true) : c.toUpper.isUpper = true := by
  simp [isAlpha_of_isLower c hc]

/-- What is put together of raised characters and others can be a word with a capital only if one
character was raised. -/
theorem of_append_eq_capital (us rest : List Char) (d : Char) (w : List Char)
    (hd : d.isLower = true) (hw : ∀ c ∈ w, c.isLower = true) (hne : us ≠ [])
    (hus : ∀ u ∈ us, u.isLower = false) (h : us ++ rest = capital (d :: w)) :
    us = [d.toUpper] ∧ rest = w := by
  obtain ⟨u, us, rfl⟩ := List.exists_cons_of_ne_nil hne
  rw [capital_cons_small d w hd, List.cons_append, List.cons_eq_cons] at h
  cases us with
  | nil => exact ⟨by rw [h.1], h.2⟩
  | cons v us =>
    -- A second raised character would stand among the small letters.
    have hsmall : v.isLower = true := hw v (by simp [← h.2])
    rw [hus v (by simp)] at hsmall
    exact absurd hsmall (by decide)

/-- Where a raised form is a raised word, all but the first letter is as it was. -/
theorem of_capital_camel_false (c : Char) (rest : List Char) (d : Char) (w : List Char)
    (hc : c ≠ '_') (hd : d.isLower = true) (hw : ∀ e ∈ w, e.isLower = true)
    (h : capital (camel false (c :: rest)) = capital (d :: w)) :
    Text.upper c = [d.toUpper] ∧ ∃ n, rest = w ++ underscores n := by
  have hcamel : camel false (c :: rest) = c :: camel false rest := by simp [camel, hc]
  rw [hcamel, capital] at h
  obtain ⟨hone, htail⟩ := of_append_eq_capital _ _ d w hd hw (Text.upper_ne_nil c)
    (fun u hu => Text.not_isLower_of_mem_upper c u hu) h
  obtain ⟨n, hn⟩ := eq_append_underscores rest fun e he => hw e (by rwa [← htail])
  exact ⟨hone, n, by rw [← htail, ← hn]⟩

/-- An underscore before the first character raises it once more, which makes no difference. -/
theorem of_capital_camel_true (c : Char) (rest : List Char) (d : Char) (w : List Char)
    (hc : c ≠ '_') (hd : d.isLower = true) (hw : ∀ e ∈ w, e.isLower = true)
    (h : capital (camel true (c :: rest)) = capital (d :: w)) :
    Text.upper c = [d.toUpper] ∧ ∃ n, rest = w ++ underscores n := by
  have hraised : ∀ u ∈ Text.upper c, u.isLower = false :=
    fun u hu => Text.not_isLower_of_mem_upper c u hu
  have hcamel : camel true (c :: rest) = Text.upper c ++ camel false rest := by simp [camel, hc]
  obtain ⟨u, us, hu⟩ := List.exists_cons_of_ne_nil (Text.upper_ne_nil c)
  rw [hcamel, hu, List.cons_append, capital] at h
  obtain ⟨hone, htail⟩ := of_append_eq_capital _ _ d w hd hw (Text.upper_ne_nil u)
    (fun v hv => Text.not_isLower_of_mem_upper u v hv) h
  -- More than one character would leave a capital where the word has small letters.
  have hus : us = [] := by
    apply List.eq_nil_iff_forall_not_mem.mpr
    intro v hv
    have hsmall := hw v (by simp [← htail, hv])
    rw [hraised v (by simp [hu, hv])] at hsmall
    exact absurd hsmall (by decide)
  have hletter : u = d.toUpper :=
    Text.eq_of_mem_upper c u d.toUpper (by simp [hu]) (isUpper_toUpper d hd) hone
  rw [hus, List.nil_append] at htail
  obtain ⟨n, hn⟩ := eq_append_underscores rest fun e he => hw e (by rwa [← htail])
  exact ⟨by rw [hu, hus, hletter], n, by rw [← htail, ← hn]⟩

/-- A text whose capital form is that of a word names a type by the word, whatever underscores are
put around it. -/
theorem capital_camel_underscores (v w : List Char) (hw : IsWord w) (hv : capital v = capital w)
    (m n : Nat) : capital (camel false (underscores m ++ v ++ underscores n)) = capital w := by
  obtain ⟨d, w, rfl⟩ := List.exists_cons_of_ne_nil hw.ne_nil
  have hd := hw.small d (by simp)
  have hsmall : ∀ e ∈ w, e.isLower = true := fun e he => hw.small e (by simp [he])
  have hne : v ≠ [] := by
    rintro rfl
    rw [capital_cons_small d w hd] at hv
    exact absurd hv (by simp [capital])
  obtain ⟨c, v, rfl⟩ := List.exists_cons_of_ne_nil hne
  -- Both begin with a letter, and are the same after it.
  have hraised := hv
  rw [capital] at hraised
  obtain ⟨hone, rfl⟩ := of_append_eq_capital _ _ d w hd hsmall (Text.upper_ne_nil c)
    (fun u hu => Text.not_isLower_of_mem_upper c u hu) hraised
  have hc : c ≠ '_' := by
    rintro rfl
    have hletter := isUpper_toUpper d hd
    have hunder : Text.upper '_' = ['_'] := by decide
    rw [hunder, List.cons_eq_cons] at hone
    rw [← hone.1] at hletter
    exact absurd hletter (by decide)
  have hrest := camel_small_append v hsmall n
  rw [List.append_assoc, List.cons_append, camel_underscores_append]
  cases m with
  | zero =>
    have hcamel : camel (false || decide (0 < 0)) (c :: (v ++ underscores n)) = c :: v := by
      simp [camel, hc, hrest]
    rw [hcamel, hv]
  | succ m =>
    -- After an underscore the letter is raised twice, which is to raise it once.
    have hcamel : camel (false || decide (0 < m + 1)) (c :: (v ++ underscores n)) =
        d.toUpper :: v := by
      simp [camel, hc, hrest, hone]
    have hascii := ascii_toUpper d (ascii_of_isLower d hd)
    rw [hcamel, capital_cons_small d v hd, capital, Text.upper_ascii _ hascii,
      Char.toUpper_toUpper_eq_toUpper, List.singleton_append]

/-- A type is called by a word with a capital exactly if its name is, underscores around it apart, a
text whose capital form is that of the word. -/
theorem capital_camel_eq_iff (cs w : List Char) (hw : IsWord w) :
    capital (camel false cs) = capital w ↔
      ∃ m n v, cs = underscores m ++ v ++ underscores n ∧ capital v = capital w := by
  obtain ⟨d, w, rfl⟩ := List.exists_cons_of_ne_nil hw.ne_nil
  have hd := hw.small d (by simp)
  have hsmall : ∀ e ∈ w, e.isLower = true := fun e he => hw.small e (by simp [he])
  constructor
  · intro h
    -- There are underscores only, or a first letter comes after some of them.
    rcases exists_underscores_append cs with ⟨n, rfl⟩ | ⟨m, c, rest, hc, rfl⟩
    · rw [camel_underscores] at h
      exact ⟨n, 0, [], by simp [underscores], h⟩
    · have hfirst : Text.upper c = [d.toUpper] ∧ ∃ n, rest = w ++ underscores n := by
        rw [camel_underscores_append] at h
        cases m with
        | zero => exact of_capital_camel_false c rest d w hc hd hsmall h
        | succ m => exact of_capital_camel_true c rest d w hc hd hsmall (by simpa using h)
      obtain ⟨hone, n, rfl⟩ := hfirst
      refine ⟨m, n, c :: w, by simp, ?_⟩
      rw [capital_cons_small d w hd, capital, hone, List.singleton_append]
  · rintro ⟨m, n, v, rfl, hv⟩
    exact capital_camel_underscores v _ hw hv m n

/-- Nothing comes out of underscores, so no name that is accepted leads to a single one. -/
theorem capital_camel_eq_nil (m n : Nat) (v : List Char) (hv : capital v = ['_']) :
    camel false (underscores m ++ v ++ underscores n) = [] := by
  have hne : v ≠ [] := by
    rintro rfl
    exact absurd hv (by decide)
  obtain ⟨c, v, rfl⟩ := List.exists_cons_of_ne_nil hne
  rw [capital] at hv
  have hmem : '_' ∈ Text.upper c := by
    obtain ⟨d, ds, hd⟩ := List.exists_cons_of_ne_nil (Text.upper_ne_nil c)
    rw [hd, List.cons_append, List.cons_eq_cons] at hv
    simp [hd, hv.1]
  -- Only an underscore is raised to one.
  have hc : c = '_' := (Text.underscore_mem_upper_iff c).mp hmem
  subst hc
  have hunder : Text.upper '_' = ['_'] := by decide
  rw [hunder, List.cons_append, List.nil_append, List.cons_eq_cons] at hv
  have hall : underscores m ++ ['_'] ++ underscores n = underscores m ++ underscores (n + 1) := by
    rw [List.append_assoc, underscores_succ, List.singleton_append]
  rw [hv.2, hall, camel_underscores_append, camel_underscores]

theorem no_underscore_capital (cs : List Char) (h : '_' ∉ cs) : '_' ∉ capital cs := by
  cases cs with
  | nil => exact h
  | cons c cs =>
    rw [List.mem_cons, not_or] at h
    rw [capital, List.mem_append, not_or]
    exact ⟨fun hmem => h.1 ((Text.underscore_mem_upper_iff c).mp hmem).symm, h.2⟩

theorem no_underscore_lowerFirst (s : String) (hs : isIdentifier s = true) (h : '_' ∉ s.toList) :
    '_' ∉ (lowerFirst s).toList := by
  obtain ⟨c, cs, hc, hascii⟩ := exists_ascii_cons_of_isIdentifier s hs
  rw [hc, List.mem_cons, not_or] at h
  have hfirst : '_' ≠ c.toLower := (toLower_ne_underscore c (Ne.symm h.1)).symm
  rw [toList_lowerFirst s c cs hc hascii, List.mem_cons, not_or]
  exact ⟨hfirst, h.2⟩

/-- A name in capital form is made to begin small again, and is a word then exactly if it is the
word in capital form. -/
theorem lowerFirst_capitalize_eq_iff (x w : String) (hx : isIdentifier (capitalize x) = true)
    (hw : IsWord w.toList) :
    lowerFirst (capitalize x) = w ↔ capital x.toList = capital w.toList := by
  obtain ⟨d, ds, hd⟩ := List.exists_cons_of_ne_nil hw.ne_nil
  have hdsmall : d.isLower = true := hw.small d (by simp [hd])
  obtain ⟨c, cs, hc, hascii⟩ := exists_ascii_cons_of_isIdentifier _ hx
  have hcapital : capital x.toList = c :: cs := by
    rw [← hc, capitalize, String.toList_ofList]
  -- What has been raised is no small letter, so that it can be got back from the letter made of it.
  have hraised : c.isLower = false := by
    obtain ⟨e, es, he⟩ := List.exists_cons_of_ne_nil (show x.toList ≠ [] by
      intro hnil
      rw [hnil] at hcapital
      exact absurd hcapital (by simp [capital]))
    obtain ⟨u, us, hu⟩ := List.exists_cons_of_ne_nil (Text.upper_ne_nil e)
    rw [he, capital, hu, List.cons_append, List.cons_eq_cons] at hcapital
    exact Text.not_isLower_of_mem_upper e c (by simp [hu, hcapital.1])
  rw [← String.toList_inj, toList_lowerFirst _ c cs hc hascii, hcapital, hd,
    capital_cons_small d ds hdsmall,
    List.cons_eq_cons, List.cons_eq_cons]
  refine and_congr_left fun _ => ?_
  constructor
  · intro h
    rw [← h, Char.toUpper_toLower_eq_toUpper, Char.toUpper_eq_of_not_isLower (by simp [hraised])]
  · intro h
    rw [h, Char.toLower_toUpper_eq_toLower, Char.toLower_eq_of_not_isUpper]
    exact Bool.eq_false_iff.mp (not_isUpper_of_isLower d hdsmall)

end Naming
end CrudLayer
