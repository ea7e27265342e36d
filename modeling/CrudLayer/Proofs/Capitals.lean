import Mathlib
import CrudLayer.Proofs.Spelling

namespace CrudLayer

namespace Text

/-- The number is not that of an underscore or a small ASCII letter, nor that of one of the two
letters beyond ASCII whose capital is an ASCII letter. -/
def IsOutside (n : Nat) : Prop := (n < 0x5F ∨ 0x7A < n) ∧ n ≠ 'ı'.toNat ∧ n ≠ 'ſ'.toNat

instance (n : Nat) : Decidable (IsOutside n) :=
  inferInstanceAs (Decidable (_ ∧ _))

theorem not_isLower_of_isOutside (c : Char) (h : IsOutside c.toNat) : c.isLower = false := by
  by_contra hc
  simp only [Bool.not_eq_false, Char.isLower, Bool.and_eq_true, decide_eq_true_eq] at hc
  have ha : 0x61 ≤ c.toNat := UInt32.le_iff_toNat_le.mp hc.1
  have hz : c.toNat ≤ 0x7A := UInt32.le_iff_toNat_le.mp hc.2
  have hside := h.1
  omega

theorem ne_underscore_of_isOutside (c : Char) (h : IsOutside c.toNat) : c ≠ '_' := by
  rintro rfl
  exact absurd h (by decide)

theorem isOutside_ofNat (n : Nat) (h : IsOutside n) : IsOutside (Char.ofNat n).toNat := by
  rw [Char.toNat_ofNat]
  split
  · exact h
  · decide

/-- No shift leads into what is left out, and those that lead to ASCII letters start from the two
letters named. -/
theorem upperShifts_isOutside : ∀ s ∈ upperShifts,
    ((s.last : Int) + s.distance < 0x5F ∨ (0x7A : Int) < s.first + s.distance) ∧
    (∀ n ∈ ['ı'.toNat, 'ſ'.toNat], (s.last : Int) + s.distance < n ∨ n < s.first + s.distance) ∧
    ((0x7F : Int) < s.first + s.distance ∨
      s.first = s.last ∧ (s.first = 'ı'.toNat ∨ s.first = 'ſ'.toNat)) := by
  decide +kernel

/-- An upper case of several characters has neither underscores nor small ASCII letters in it. -/
theorem upperExpansions_isOutside : ∀ p ∈ upperExpansions,
    2 ≤ p.2.length ∧ ∀ n ∈ p.2, IsOutside n := by
  decide

theorem Shift.covers_iff (s : Shift) (n : Nat) :
    s.covers n = true ↔ s.first ≤ n ∧ n ≤ s.last ∧ (n - s.first) % s.stride = 0 := by
  simp [Shift.covers, and_assoc]

/-- Where a shift moves a character, or that there is none. -/
theorem moveBy_upper_cases (c : Char) :
    (∃ s ∈ upperShifts, s.covers c.toNat = true ∧
      moveBy upperShifts c = Char.ofNat ((c.toNat : Int) + s.distance).toNat) ∨
    (c ≠ 'ı' ∧ c ≠ 'ſ' ∧ moveBy upperShifts c = c) := by
  unfold moveBy
  split
  · rename_i s hs
    have hcovers := List.find?_some hs
    exact Or.inl ⟨s, List.mem_of_find?_eq_some hs, hcovers, rfl⟩
  · rename_i hnone
    refine Or.inr ⟨?_, ?_, rfl⟩
    -- Both letters have a shift.
    all_goals
      rintro rfl
      have hsome := congrArg Option.isSome hnone
      revert hsome
      decide

/-- Beyond ASCII, no shift leads to an underscore or to a small ASCII letter. -/
theorem isOutside_moveBy_upper (c : Char) (h : ¬ c.toNat < 0x80) :
    IsOutside (moveBy upperShifts c).toNat := by
  rcases moveBy_upper_cases c with ⟨s, hs, hcovers, hmove⟩ | ⟨hi, hlong, hmove⟩
  · obtain ⟨hfirst, hlast, -⟩ := (s.covers_iff c.toNat).mp hcovers
    rw [hmove]
    apply isOutside_ofNat
    -- The whole stretch lies on one side of each number, so the moved character does.
    obtain ⟨hside, hletters, -⟩ := upperShifts_isOutside s hs
    have hi := hletters 'ı'.toNat (by simp)
    have hlong := hletters 'ſ'.toNat (by simp)
    have hnum : 'ı'.toNat = 0x131 ∧ 'ſ'.toNat = 0x17F := by decide
    unfold IsOutside
    omega
  · rw [hmove]
    refine ⟨Or.inr (by omega), ?_, ?_⟩
    · exact fun heq => hi (Char.toNat_inj.mp heq)
    · exact fun heq => hlong (Char.toNat_inj.mp heq)

/-- The upper case of a character is listed, or a shift leads to it. -/
theorem mapBy_upper_cases (c : Char) :
    (∃ ns, (c.toNat, ns) ∈ upperExpansions ∧
      mapBy upperExpansions upperShifts c = ns.map Char.ofNat) ∨
    mapBy upperExpansions upperShifts c = [moveBy upperShifts c] := by
  unfold mapBy
  split
  · rename_i ns hns
    obtain ⟨before, after, hlist, -⟩ := List.lookup_eq_some_iff.mp hns
    refine Or.inl ⟨ns, ?_, rfl⟩
    rw [hlist]
    simp
  · exact Or.inr rfl

theorem isOutside_of_mem_upper (c d : Char) (h : ¬ c.toNat < 0x80) (hd : d ∈ upper c) :
    IsOutside d.toNat := by
  rw [upper, if_neg h] at hd
  rcases mapBy_upper_cases c with ⟨ns, hns, heq⟩ | heq
  · rw [heq] at hd
    obtain ⟨n, hn, rfl⟩ := List.mem_map.mp hd
    exact isOutside_ofNat n ((upperExpansions_isOutside _ hns).2 n hn)
  · rw [heq, List.mem_singleton] at hd
    rw [hd]
    exact isOutside_moveBy_upper c h

/-- No small ASCII letter is in the upper case of any character. -/
theorem not_isLower_of_mem_upper (c d : Char) (hd : d ∈ upper c) : d.isLower = false := by
  by_cases h : c.toNat < 0x80
  · rw [upper_ascii c h, List.mem_singleton] at hd
    rw [hd]
    exact Char.isLower_toUpper_eq_false c
  · exact not_isLower_of_isOutside d (isOutside_of_mem_upper c d h hd)

/-- An underscore comes of an underscore only. -/
theorem underscore_mem_upper_iff (c : Char) : '_' ∈ upper c ↔ c = '_' := by
  constructor
  · intro hmem
    by_cases h : c.toNat < 0x80
    · rw [upper_ascii c h, List.mem_singleton] at hmem
      -- A letter would have become a letter.
      by_cases hlower : c.isLower = true
      · have halpha : c.toUpper.isAlpha = true := by
          rw [Char.isAlpha_toUpper_eq_isAlpha]
          exact Naming.isAlpha_of_isLower c hlower
        rw [← hmem] at halpha
        exact absurd halpha (by decide)
      · rwa [Char.toUpper_eq_of_not_isLower hlower, eq_comm] at hmem
    · exact absurd rfl (ne_underscore_of_isOutside '_' (isOutside_of_mem_upper c '_' h hmem))
  · rintro rfl
    decide

theorem upper_ne_nil (c : Char) : upper c ≠ [] := by
  by_cases h : c.toNat < 0x80
  · simp [upper_ascii c h]
  · rw [upper, if_neg h]
    rcases mapBy_upper_cases c with ⟨ns, hns, heq⟩ | heq
    · have hlen := (upperExpansions_isOutside _ hns).1
      rw [heq]
      intro hnil
      rw [List.map_eq_nil_iff.mp hnil] at hlen
      simp at hlen
    · simp [heq]

/-- A character in upper case whose own upper case is a capital ASCII letter is that letter. -/
theorem eq_of_upper_eq_capital (c d : Char) (hc : IsOutside c.toNat) (hd : d.isUpper = true)
    (h : upper c = [d]) : c = d := by
  have hdascii : d.toNat < 0x80 := Naming.ascii_of_isUpper d hd
  by_cases hascii : c.toNat < 0x80
  · rw [upper_ascii c hascii, List.cons_eq_cons] at h
    rw [← h.1, Char.toUpper_eq_of_not_isLower]
    simp [not_isLower_of_isOutside c hc]
  · rw [upper, if_neg hascii] at h
    rcases mapBy_upper_cases c with ⟨ns, hns, heq⟩ | heq
    · -- An expansion has several characters.
      have hlen := (upperExpansions_isOutside _ hns).1
      rw [heq] at h
      have hone := congrArg List.length h
      simp only [List.length_map, List.length_singleton] at hone hlen
      omega
    · rw [heq, List.cons_eq_cons] at h
      rcases moveBy_upper_cases c with ⟨s, hs, hcovers, hmove⟩ | ⟨-, -, hmove⟩
      · -- A shift that leads to a letter of ASCII starts from a letter that is left out.
        exfalso
        obtain ⟨hfirst, hlast, -⟩ := (s.covers_iff c.toNat).mp hcovers
        rw [hmove] at h
        have hnat := congrArg Char.toNat h.1
        rw [Char.toNat_ofNat] at hnat
        have hpos : 0 < d.toNat := by
          have ha : 0x41 ≤ d.toNat := by
            simp only [Char.isUpper, decide_eq_true_eq] at hd
            exact UInt32.le_iff_toNat_le.mp hd.1
          omega
        have hends := (upperShifts_isOutside s hs).2.2
        have hi := hc.2.1
        have hlong := hc.2.2
        split at hnat <;> omega
      · rw [← h.1, hmove]

/-- To raise what was raised changes nothing, where a capital ASCII letter comes of it. -/
theorem eq_of_mem_upper (c d e : Char) (hd : d ∈ upper c) (he : e.isUpper = true)
    (h : upper d = [e]) : d = e := by
  by_cases hascii : c.toNat < 0x80
  · rw [upper_ascii c hascii, List.mem_singleton] at hd
    have hdascii : d.toNat < 0x80 := by
      rw [hd]
      exact Naming.ascii_toUpper c hascii
    rw [upper_ascii d hdascii, List.cons_eq_cons, hd, Char.toUpper_toUpper_eq_toUpper, ← hd] at h
    exact h.1
  · exact eq_of_upper_eq_capital d e (isOutside_of_mem_upper c d hascii hd) he h

def Shift.goal (s : Shift) : Nat := ((s.first : Int) + s.distance).toNat

/-- The shift leads to none of the numbers from `first` to `last` that are `stride` apart: its
stretch ends before them or begins after them, or it leads to the numbers between them. -/
def Shift.misses (s : Shift) (first last stride : Nat) : Bool :=
  (s.goal + (s.last - s.first)).blt first || last.blt s.goal ||
    stride.beq 2 && (s.first.beq s.last || s.stride.beq 2) && ((s.goal + first) % 2).beq 1

theorem Shift.misses_iff (s : Shift) (first last stride : Nat) :
    s.misses first last stride = true ↔
      s.goal + (s.last - s.first) < first ∨ last < s.goal ∨
        stride = 2 ∧ (s.first = s.last ∨ s.stride = 2) ∧ (s.goal + first) % 2 = 1 := by
  simp [Shift.misses, or_assoc, and_assoc]

/-- No shift starts where one leads to. -/
theorem upperShifts_miss :
    (upperShifts.all fun s =>
      upperShifts.all fun t => s.misses t.first t.last t.stride) = true := by
  decide +kernel

/-- No shift leads to a character whose upper case has several characters. -/
theorem upperShifts_miss_expansions :
    (upperShifts.all fun s => upperExpansions.all fun p => s.misses p.1 p.1 2) = true := by
  decide +kernel

theorem upperShifts_pos : ∀ s ∈ upperShifts, 0 < s.first ∧ (0 : Int) ≤ s.first + s.distance := by
  decide +kernel

theorem upperExpansions_pos : ∀ p ∈ upperExpansions, 0 < p.1 := by
  decide

theorem upper_head_expansions :
    ∀ p ∈ upperExpansions, ∀ n ∈ p.2.head?, upper (Char.ofNat n) = [Char.ofNat n] := by
  decide +kernel

/-- A number that is moved comes to none of those that its shift misses. -/
theorem Shift.goal_ne (s : Shift) (n first last stride m : Nat)
    (hpos : (0 : Int) ≤ s.first + s.distance) (hn : s.covers n = true)
    (hmiss : s.misses first last stride = true) (hfirst : first ≤ m) (hlast : m ≤ last)
    (hstride : (m - first) % stride = 0) : ((n : Int) + s.distance).toNat ≠ m := by
  obtain ⟨hn₁, hn₂, hn₃⟩ := (s.covers_iff n).mp hn
  have hgoal : (s.goal : Int) = s.first + s.distance := Int.toNat_of_nonneg hpos
  intro hm
  rcases (s.misses_iff first last stride).mp hmiss with h | h | ⟨rfl, h | h, hodd⟩
  · omega
  · omega
  · omega
  · rw [h] at hn₃
    omega

/-- A character that is neither a small ASCII letter nor in the tables is its own capital. -/
theorem upper_eq_self (d : Char) (hlower : d.isLower = false)
    (hexpand : ∀ p ∈ upperExpansions, d.toNat ≠ p.1)
    (hshift : ∀ t ∈ upperShifts, t.covers d.toNat = false) : upper d = [d] := by
  by_cases hascii : d.toNat < 0x80
  · rw [upper_ascii d hascii, Char.toUpper_eq_of_not_isLower (by simp [hlower])]
  · have hlookup : upperExpansions.lookup d.toNat = none := by
      rw [List.lookup_eq_none_iff]
      exact fun p hp => by simpa using hexpand p hp
    have hfind : upperShifts.find? (·.covers d.toNat) = none := by
      rw [List.find?_eq_none]
      exact fun t ht => by simp [hshift t ht]
    simp only [upper, hascii, if_false, mapBy, hlookup, moveBy, hfind]

/-- A number that is that of a character, and not zero, was not replaced on the way there. -/
theorem eq_of_toNat_ofNat (n m : Nat) (hm : 0 < m) (h : (Char.ofNat n).toNat = m) : n = m := by
  rw [Char.toNat_ofNat] at h
  split at h
  · exact h
  · omega

/-- Where a shift leads there is nothing more to raise. -/
theorem upper_goal (s : Shift) (hs : s ∈ upperShifts) (n : Nat) (hn : s.covers n = true)
    (hlower : (Char.ofNat ((n : Int) + s.distance).toNat).isLower = false) :
    upper (Char.ofNat ((n : Int) + s.distance).toNat) =
      [Char.ofNat ((n : Int) + s.distance).toNat] := by
  have hpos := (upperShifts_pos s hs).2
  apply upper_eq_self _ hlower
  · intro p hp heq
    have hmiss := List.all_eq_true.mp (List.all_eq_true.mp upperShifts_miss_expansions s hs) p hp
    apply s.goal_ne n p.1 p.1 2 p.1 hpos hn hmiss le_rfl le_rfl (by simp)
    exact eq_of_toNat_ofNat _ p.1 (upperExpansions_pos p hp) heq
  · intro t ht
    by_contra hcovers
    rw [Bool.not_eq_false, t.covers_iff] at hcovers
    obtain ⟨hfirst, hlast, hstride⟩ := hcovers
    have hmiss := List.all_eq_true.mp (List.all_eq_true.mp upperShifts_miss s hs) t ht
    have ht := (upperShifts_pos t ht).1
    apply s.goal_ne n t.first t.last t.stride _ hpos hn hmiss hfirst hlast hstride
    exact eq_of_toNat_ofNat _ _ (by omega) rfl

/-- To raise the first character of what was raised changes nothing. -/
theorem upper_head_upper (c d : Char) (ds : List Char) (h : upper c = d :: ds) :
    upper d = [d] := by
  have hlower : d.isLower = false := not_isLower_of_mem_upper c d (by simp [h])
  by_cases hascii : c.toNat < 0x80
  · rw [upper_ascii c hascii, List.cons_eq_cons] at h
    rw [← h.1, upper_ascii _ (Naming.ascii_toUpper c hascii), Char.toUpper_toUpper_eq_toUpper]
  · rw [upper, if_neg hascii] at h
    rcases mapBy_upper_cases c with ⟨ns, hns, heq⟩ | heq
    · rw [heq] at h
      obtain ⟨n, ns', rfl, rfl, -⟩ := List.map_eq_cons_iff.mp h
      exact upper_head_expansions _ hns n rfl
    · rw [heq, List.cons_eq_cons] at h
      rcases moveBy_upper_cases c with ⟨s, hs, hcovers, hmove⟩ | ⟨-, -, hmove⟩
      · rw [hmove] at h
        rw [← h.1] at hlower ⊢
        exact upper_goal s hs c.toNat hcovers hlower
      · -- A character that is not moved was raised to itself.
        rw [← h.1, hmove, upper, if_neg hascii, heq, hmove]

end Text

namespace Naming

theorem no_underscore_camel (raise : Bool) (cs : List Char) : '_' ∉ camel raise cs := by
  induction cs generalizing raise with
  | nil => simp [camel]
  | cons c cs ih =>
    by_cases hc : c = '_'
    · simpa [camel, hc] using ih true
    · have hrest := ih false
      have hupper : '_' ∉ Text.upper c := fun h => hc ((Text.underscore_mem_upper_iff c).mp h)
      cases raise <;> simp [camel, hc, hrest, hupper, Ne.symm hc]

/-- In a lowerCamel form no underscore is left. -/
theorem no_underscore_snakeToCamel (s : String) : '_' ∉ (snakeToCamel s).toList := by
  rw [snakeToCamel, String.toList_ofList]
  exact no_underscore_camel false s.toList

end Naming
end CrudLayer
