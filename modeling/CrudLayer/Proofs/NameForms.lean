import Mathlib
import CrudLayer.Proofs.StoredApart

/-!
Which names have a counterpart in the other form. The way to the lowerCamel form and the way back
are inverse to each other between the names whose underscores can be told from their capitals and
the names whose capitals can be told from small letters. No other name comes back, whichever way it
is sent first, and one pass already leads among them.
-/
namespace CrudLayer.Naming

/-- A snake_case name that has a lowerCamel form of its own: its words begin and end with small
letters wherever they meet, and those that do both are not one letter. -/
@[mk_iff]
structure IsSnakeForm (s : String) : Prop where
  ascii : Text.IsAscii s
  no_capital : ∀ c ∈ s.toList, c.isUpper = false
  filled : ∀ w ∈ words s, w ≠ []
  begins : ∀ w ∈ (words s).tail, ∀ c ∈ w.head?, c.isAlpha = true
  ends : ∀ w ∈ (words s).dropLast, ∀ c ∈ w.getLast?, c.isAlpha = true
  inner : ∀ w ∈ innerWords s, 2 ≤ w.length

instance (s : String) : Decidable (IsSnakeForm s) :=
  decidable_of_iff (Text.IsAscii s ∧ s.toList.all (!·.isUpper) = true ∧
      (∀ w ∈ words s, w ≠ []) ∧ (∀ w ∈ (words s).tail, w.head?.all Char.isAlpha = true) ∧
      (∀ w ∈ (words s).dropLast, w.getLast?.all Char.isAlpha = true) ∧
      ∀ w ∈ innerWords s, 2 ≤ w.length)
    (by
      simp only [isSnakeForm_iff, List.all_eq_true, Option.all_eq_true, Bool.not_eq_true',
        Option.mem_def])

/-- A lowerCamel name that has a snake_case form of its own: every capital comes right after a small
letter. -/
@[mk_iff]
structure IsCamelForm (s : String) : Prop where
  ascii : Text.IsAscii s
  ne_empty : s ≠ ""
  no_underscore : '_' ∉ s.toList
  head : ∀ c ∈ s.toList.head?, c.isUpper = false
  after_small : s.toList.IsChain fun b c => c.isUpper = true → b.isLower = true

instance (s : String) : Decidable (IsCamelForm s) :=
  decidable_of_iff (Text.IsAscii s ∧ s ≠ "" ∧ '_' ∉ s.toList ∧
      s.toList.head?.all (!·.isUpper) = true ∧
      s.toList.IsChain fun b c => c.isUpper = true → b.isLower = true)
    (by simp only [isCamelForm_iff, Option.all_eq_true, Bool.not_eq_true', Option.mem_def])

theorem endsSmall_mono {before : Bool} {w : List Char} (h : endsSmall before w = true)
    (after : Bool) (hafter : before = true → after = true) : endsSmall after w = true := by
  unfold endsSmall at h ⊢
  cases hlast : w.getLast? with
  | none => simpa [hlast] using hafter (by simpa [hlast] using h)
  | some c => simpa [hlast] using h

/-- Where the word `w` ends in a small letter, the next one begins with one. Of that next word `w`
is what follows its first letter, which becomes a capital. -/
inductive AreLinked : Bool → List Char → List (List Char) → Prop
  | last {before : Bool} {w : List Char} : AreLinked before w []
  | link {before : Bool} {w v : List Char} {c : Char} {vs : List (List Char)}
    (hends : endsSmall before w = true) (hbegins : c.isLower = true)
    (hrest : AreLinked false v vs) : AreLinked before w ((c :: v) :: vs)

theorem isLower_eq_false_of_isUpper (c : Char) (h : c.isUpper = true) : c.isLower = false := by
  by_contra hlower
  rw [Bool.not_eq_false] at hlower
  simp [not_isUpper_of_isLower c hlower] at h

theorem isLower_toLower_of_isUpper (c : Char) (h : c.isUpper = true) :
    c.toLower.isLower = true := by
  simp [Char.isLower_toLower_eq_isAlpha, Char.isAlpha, h]

theorem ascii_toLower (c : Char) (h : c.toNat < 0x80) : c.toLower.toNat < 0x80 := by
  by_cases hc : c.isUpper = true
  · exact ascii_of_isLower _ (isLower_toLower_of_isUpper c hc)
  · rwa [Char.toLower_eq_of_not_isUpper hc]

theorem isLower_of_letter (c : Char) (hletter : c.isAlpha = true) (hc : c.isUpper = false) :
    c.isLower = true := by
  simpa [Char.isAlpha, hc] using hletter

/-- Of linked words the separated form of their capitals is the words again. -/
theorem AreLinked.separate_capitals {before : Bool} {w : List Char} {ws : List (List Char)}
    (h : AreLinked before w ws) (hcapital : ∀ v ∈ w :: ws, ∀ c ∈ v, c.isUpper = false) :
    (separate before (w ++ ws.flatMap capital)).map Char.toLower = w ++ joined ws := by
  induction h with
  | @last before w =>
    have hw := hcapital w (by simp)
    have halone : separate before (w ++ []) = w := by
      simpa [separate] using separate_append before w [] hw
    rw [List.flatMap_nil, halone, map_toLower_of_no_capital w hw]
    simp [joined]
  | @link before w v c vs hends hbegins hrest ih =>
    have hw := hcapital w (by simp)
    have hup : c.toUpper.isUpper = true := by simp [isAlpha_of_isLower c hbegins]
    have hdown : c.toUpper.isLower = false := Char.isLower_toUpper_eq_false c
    have hunder : Char.toLower '_' = '_' := rfl
    have htail := ih fun u hu => by
      rcases List.mem_cons.mp hu with rfl | hu
      · exact fun d hd => hcapital _ (List.mem_cons_of_mem w List.mem_cons_self) d (by simp [hd])
      · exact hcapital u (by simp [hu])
    -- The capital takes an underscore, and the rest of its word starts afresh.
    calc (separate before (w ++ ((c :: v) :: vs).flatMap capital)).map Char.toLower
        = (w ++ '_' :: c.toUpper :: separate false (v ++ vs.flatMap capital)).map Char.toLower := by
          rw [separate_append before w _ hw, hends]
          simp [capital, Text.upper_ascii c (ascii_of_isLower c hbegins), separate, hup, hdown]
      _ = w ++ '_' :: c :: (v ++ joined vs) := by
          simp [map_toLower_of_no_capital w hw, hunder, toLower_of_isLower c hbegins, htail]
      _ = w ++ joined ((c :: v) :: vs) := by simp [joined]

/-- Another letter at the front of a word leaves the links as they are. -/
theorem AreLinked.cons {before after : Bool} {w : List Char} {ws : List (List Char)}
    (h : AreLinked before w ws) (c : Char) (hc : before = true → c.isLower = true) :
    AreLinked after (c :: w) ws := by
  cases h with
  | last => exact .last
  | link hends hbegins hrest =>
    refine .link ?_ hbegins hrest
    rw [endsSmall_cons]
    exact endsSmall_mono hends _ hc

/-- Whatever name without underscores is separated, its words are linked: an underscore is only ever
put between a small letter and a capital. -/
theorem areLinked_separate (before : Bool) (cs : List Char) (hcs : '_' ∉ cs) :
    ∃ w ws, ((separate before cs).map Char.toLower).splitOn '_' = w :: ws ∧
      AreLinked before w ws ∧ (before = false → cs ≠ [] → w ≠ []) := by
  induction cs generalizing before with
  | nil => exact ⟨[], [], by simp [separate], .last, by simp⟩
  | cons c cs ih =>
    simp only [List.mem_cons, not_or] at hcs
    obtain ⟨w, ws, hsplit, hlinked, -⟩ := ih c.isLower hcs.2
    have hc : (c.toLower == '_') = false := by
      simpa using toLower_ne_underscore c (Ne.symm hcs.1)
    have hhead : (c.toLower :: (separate c.isLower cs).map Char.toLower).splitOn '_' =
        (c.toLower :: w) :: ws := by
      rw [List.splitOn_cons_eq_if_modifyHead, hc, hsplit]
      rfl
    have hsame : c.isLower = true → c.toLower.isLower = true := fun h => by
      rw [toLower_of_isLower c h, h]
    -- A capital after a small letter begins another word.
    cases hmark : before && c.isUpper with
    | false =>
      refine ⟨c.toLower :: w, ws, ?_, hlinked.cons c.toLower hsame, by simp⟩
      simpa [separate, hmark] using hhead
    | true =>
      rw [Bool.and_eq_true] at hmark
      obtain ⟨rfl, hup⟩ := hmark
      have hdown := isLower_eq_false_of_isUpper c hup
      rw [hdown] at hlinked hhead
      refine ⟨[], (c.toLower :: w) :: ws, ?_, .link rfl ?_ hlinked, by simp⟩
      · have hunder : Char.toLower '_' = '_' := rfl
        simp [separate, hup, hdown, hunder, List.splitOn_cons_eq_if_modifyHead '_', hhead]
      · exact isLower_toLower_of_isUpper c hup

/-- The same said of the words one by one: those that others follow end in a small letter, and are
not the one letter that begins them. -/
theorem areLinked_iff (before : Bool) (w : List Char) (ws : List (List Char)) :
    AreLinked before w ws ↔
      (ws ≠ [] → endsSmall before w = true) ∧ (∀ v ∈ ws, ∃ c ∈ v.head?, c.isLower = true) ∧
        ∀ v ∈ ws.dropLast, 2 ≤ v.length ∧ endsSmall false v = true := by
  induction ws generalizing before w with
  | nil => exact ⟨fun _ => by simp, fun _ => .last⟩
  | cons v vs ih =>
    -- After its first letter a word ends small if it does so and has a second letter.
    have hlong : ∀ (c : Char) (u : List Char),
        endsSmall false u = true ↔ 2 ≤ (c :: u).length ∧ endsSmall false (c :: u) = true := by
      intro c u
      cases u with
      | nil => simp [endsSmall]
      | cons d u => simp [endsSmall_cons]
    constructor
    · intro h
      cases h with
      | @link _ _ v c _ hends hbegins hrest =>
        obtain ⟨hlast, hfirst, hinner⟩ := (ih false v).mp hrest
        refine ⟨fun _ => hends, List.forall_mem_cons.mpr ⟨⟨c, by simp, hbegins⟩, hfirst⟩, ?_⟩
        cases vs with
        | nil => simp
        | cons u vs =>
          rw [List.dropLast_cons_cons, List.forall_mem_cons]
          exact ⟨(hlong c v).mp (hlast (by simp)), hinner⟩
    · rintro ⟨hends, hfirst, hinner⟩
      obtain ⟨⟨c, hc, hbegins⟩, hothers⟩ := List.forall_mem_cons.mp hfirst
      obtain ⟨v, rfl⟩ := List.head?_eq_some_iff.mp hc
      refine .link (hends (by simp)) hbegins ((ih false v).mpr ⟨?_, hothers, ?_⟩)
      · intro hvs
        obtain ⟨u, vs, rfl⟩ := List.exists_cons_of_ne_nil hvs
        exact (hlong c v).mpr (hinner (c :: v) (by simp))
      · intro u hu
        cases vs with
        | nil => simp at hu
        | cons u' vs => exact hinner u (List.mem_cons_of_mem _ hu)

/-- The last character decides, where there is one. -/
theorem endsSmall_iff (w : List Char) :
    endsSmall false w = true ↔ ∃ c ∈ w.getLast?, c.isLower = true := by
  cases h : w.getLast? <;> simp [endsSmall, h]

theorem mem_of_mem_words (s : String) (w : List Char) (hw : w ∈ words s) (c : Char) (hc : c ∈ w) :
    c ∈ s.toList := by
  obtain ⟨v, vs, h⟩ := List.exists_cons_of_ne_nil (List.splitOn_ne_nil '_' s.toList)
  rw [toList_eq_joined s v vs h]
  rw [words, h] at hw
  rcases List.mem_cons.mp hw with rfl | hw
  · exact List.mem_append_left _ hc
  · exact List.mem_append_right _ (List.mem_flatMap.mpr ⟨w, hw, by simp [hc]⟩)

/-- The words of a snake form are linked. -/
theorem IsSnakeForm.areLinked {s : String} (h : IsSnakeForm s) (w : List Char)
    (ws : List (List Char)) (hwords : words s = w :: ws) : AreLinked false w ws := by
  have hletter : ∀ v ∈ words s, ∀ c ∈ v, c.isAlpha = true → c.isLower = true :=
    fun v hv c hc halpha =>
      isLower_of_letter c halpha (h.no_capital c (mem_of_mem_words s v hv c hc))
  have hinner : innerWords s = ws.dropLast := by simp [innerWords, hwords]
  have hfilled := h.filled
  have hbegins := h.begins
  have hends := h.ends
  have hlong := h.inner
  rw [hwords] at hfilled hbegins hends hletter
  rw [hinner] at hlong
  -- A letter at either end of a word is a small one.
  have hlast : ∀ v ∈ (w :: ws).dropLast, endsSmall false v = true := by
    intro v hv
    have hmem := List.mem_of_mem_dropLast hv
    have hc := List.getLast?_eq_some_getLast (hfilled v hmem)
    rw [endsSmall_iff]
    exact ⟨_, hc, hletter v hmem _ (List.mem_of_getLast? hc) (hends v hv _ hc)⟩
  refine (areLinked_iff false w ws).mpr
    ⟨fun hws => ?_, fun v hv => ?_, fun v hv => ⟨hlong v hv, ?_⟩⟩
  · obtain ⟨u, us, rfl⟩ := List.exists_cons_of_ne_nil hws
    exact hlast w (by simp)
  · have hmem := List.mem_cons_of_mem w hv
    have hc := List.head?_eq_some_head (hfilled v hmem)
    exact ⟨_, hc, hletter v hmem _ (List.mem_of_head? hc) (hbegins v hv _ hc)⟩
  · cases ws with
    | nil => simp at hv
    | cons u us => exact hlast v (List.mem_cons_of_mem w hv)

/-- An ASCII name without capitals whose words are linked is a snake form. -/
theorem isSnakeForm_of_areLinked (s : String) (hascii : Text.IsAscii s)
    (hcapital : ∀ c ∈ s.toList, c.isUpper = false) (w : List Char) (ws : List (List Char))
    (hwords : words s = w :: ws) (hw : w ≠ []) (hlinked : AreLinked false w ws) :
    IsSnakeForm s := by
  obtain ⟨hends, hbegins, hlong⟩ := (areLinked_iff false w ws).mp hlinked
  have hlast : ∀ v ∈ (w :: ws).dropLast, endsSmall false v = true := by
    cases ws with
    | nil => simp
    | cons u us =>
      rw [List.dropLast_cons_cons, List.forall_mem_cons]
      exact ⟨hends (by simp), fun v hv => (hlong v hv).2⟩
  -- One small letter at the end of a word is all that there is at this end.
  have hletter : ∀ {o : Option Char}, (∃ c ∈ o, c.isLower = true) → ∀ c ∈ o, c.isAlpha = true := by
    rintro o ⟨d, hd, hlower⟩ c hc
    exact Option.mem_unique hd hc ▸ isAlpha_of_isLower d hlower
  refine ⟨hascii, hcapital, ?_, ?_, ?_, ?_⟩
  · rw [hwords, List.forall_mem_cons]
    refine ⟨hw, fun v hv hnil => ?_⟩
    obtain ⟨c, hc, -⟩ := hbegins v hv
    simp [hnil] at hc
  · rw [hwords]
    exact fun v hv => hletter (hbegins v hv)
  · rw [hwords]
    exact fun v hv => hletter ((endsSmall_iff v).mp (hlast v hv))
  · have hinner : innerWords s = ws.dropLast := by simp [innerWords, hwords]
    rw [hinner]
    exact fun v hv => (hlong v hv).1

/-- A name without underscores comes back exactly if none of its capitals is without a small letter
before it. -/
theorem camel_separate_iff (before : Bool) (cs : List Char) (hascii : ∀ c ∈ cs, c.toNat < 0x80)
    (hcs : '_' ∉ cs) :
    camel false ((separate before cs).map Char.toLower) = cs ↔
      (∀ c ∈ cs.head?, c.isUpper = true → before = true) ∧
        cs.IsChain fun b c => c.isUpper = true → b.isLower = true := by
  induction cs generalizing before with
  | nil => simp [separate, camel]
  | cons c cs ih =>
    simp only [List.mem_cons, not_or] at hcs
    have hrest := ih c.isLower (fun d hd => hascii d (by simp [hd])) hcs.2
    have hc : c.toLower ≠ '_' := toLower_ne_underscore c (Ne.symm hcs.1)
    have hchain : (c :: cs).IsChain (fun b c => c.isUpper = true → b.isLower = true) ↔
        (∀ d ∈ cs.head?, d.isUpper = true → c.isLower = true) ∧
          cs.IsChain fun b c => c.isUpper = true → b.isLower = true := List.isChain_cons
    rw [hchain, ← hrest]
    simp only [List.head?_cons, Option.mem_some_iff, forall_eq']
    cases hmark : before && c.isUpper with
    | true =>
      -- The underscore is gone again, and the letter after it is raised to what it was.
      rw [Bool.and_eq_true] at hmark
      obtain ⟨rfl, hup⟩ := hmark
      have hunder : Char.toLower '_' = '_' := rfl
      have hraise : Text.upper c.toLower = [c] := by
        have hlow : c.toLower.toNat < 0x80 := ascii_toLower c (hascii c (by simp))
        rw [Text.upper_ascii _ hlow, Char.toUpper_toLower_eq_toUpper,
          Char.toUpper_eq_of_not_isLower (by simp [isLower_eq_false_of_isUpper c hup])]
      simp [separate, hup, camel, hunder, hc, hraise]
    | false =>
      have hsame : c.toLower = c ↔ (c.isUpper = true → before = true) := by
        cases hup : c.isUpper with
        | false => simp [Char.toLower_eq_of_not_isUpper, hup]
        | true =>
          have hbefore : before = false := by simpa [hup] using hmark
          have hne : c.toLower ≠ c := by
            intro heq
            have hlower := isLower_toLower_of_isUpper c hup
            rw [heq, isLower_eq_false_of_isUpper c hup] at hlower
            exact absurd hlower (by decide)
          simp [hbefore, hne]
      simp [separate, hmark, camel, hc, hsame]

/-- A name without underscores comes back exactly if it is a lowerCamel form. -/
theorem snakeToCamel_camelToSnake_iff (s : String) (hascii : Text.IsAscii s)
    (hne : s ≠ "") (hunder : '_' ∉ s.toList) :
    snakeToCamel (camelToSnake s) = s ↔ IsCamelForm s := by
  rw [camelToSnake_ascii s hascii, snakeToCamel, String.toList_ofList, ← String.toList_inj,
    String.toList_ofList, camel_separate_iff false s.toList hascii hunder, isCamelForm_iff]
  simp [hascii, hne, hunder]

/-- One pass leads to a snake form, whatever name it starts from. -/
theorem isSnakeForm_camelToSnake (s : String) (hascii : Text.IsAscii s)
    (hne : s ≠ "") (hunder : '_' ∉ s.toList) : IsSnakeForm (camelToSnake s) := by
  obtain ⟨w, ws, hwords, hlinked, hfilled⟩ := areLinked_separate false s.toList hunder
  have hlist : (camelToSnake s).toList = (separate false s.toList).map Char.toLower := by
    rw [camelToSnake_ascii s hascii, String.toList_ofList]
  refine isSnakeForm_of_areLinked _ ?_ ?_ w ws ?_ (hfilled rfl ?_) hlinked
  · rw [Text.IsAscii, hlist]
    exact List.forall_mem_map.mpr fun c hc =>
      ascii_toLower c (ascii_of_mem_separate false _ hascii c hc)
  · rw [hlist]
    exact List.forall_mem_map.mpr fun c _ => Char.isUpper_toLower_eq_false c
  · rw [words, hlist, hwords]
  · simpa using hne

/-- A snake form comes back. -/
theorem IsSnakeForm.restored {s : String} (h : IsSnakeForm s) :
    camelToSnake (snakeToCamel s) = s := by
  obtain ⟨w, ws, hwords⟩ := List.exists_cons_of_ne_nil (List.splitOn_ne_nil '_' s.toList)
  have hlist := toList_eq_joined s w ws hwords
  have hlinked := h.areLinked w ws hwords
  have hcapital : ∀ v ∈ w :: ws, ∀ c ∈ v, c.isUpper = false :=
    fun v hv c hc => h.no_capital c (mem_of_mem_words s v (by rw [words, hwords]; exact hv) c hc)
  rw [camelToSnake_ascii _ (isAscii_snakeToCamel s h.ascii), toList_snakeToCamel s w ws hwords,
    hlinked.separate_capitals hcapital, ← hlist, String.ofList_toList]

/-- An ASCII name comes back exactly if it is a snake form. -/
theorem camelToSnake_snakeToCamel_iff (s : String) (hascii : Text.IsAscii s)
    (hne : s ≠ "") : camelToSnake (snakeToCamel s) = s ↔ IsSnakeForm s := by
  refine ⟨fun h => ?_, IsSnakeForm.restored⟩
  rw [← h]
  apply isSnakeForm_camelToSnake _ (isAscii_snakeToCamel s hascii) _ (no_underscore_snakeToCamel s)
  intro hempty
  rw [hempty] at h
  exact hne (h.symm.trans (by decide))

/-- The two ways are inverse to each other between the snake forms and the lowerCamel forms, and no
other name comes back from the one it is sent to. -/
theorem forms_correspond :
    (∀ x, IsSnakeForm x →
      IsCamelForm (snakeToCamel x) ∧ camelToSnake (snakeToCamel x) = x) ∧
    (∀ y, IsCamelForm y →
      IsSnakeForm (camelToSnake y) ∧ snakeToCamel (camelToSnake y) = y) ∧
    (∀ x, Text.IsAscii x → x ≠ "" →
      (camelToSnake (snakeToCamel x) = x ↔ IsSnakeForm x)) ∧
    (∀ y, Text.IsAscii y → '_' ∉ y.toList → y ≠ "" →
      (snakeToCamel (camelToSnake y) = y ↔ IsCamelForm y)) := by
  refine ⟨fun x hx => ⟨?_, hx.restored⟩, fun y hy => ⟨?_, ?_⟩,
    fun x hascii hne => camelToSnake_snakeToCamel_iff x hascii hne,
    fun y hascii hunder hne => snakeToCamel_camelToSnake_iff y hascii hne hunder⟩
  · -- A form comes back from what it was turned into, so that cannot be empty.
    have hne : snakeToCamel x ≠ "" := by
      intro hempty
      have hback := hx.restored
      rw [hempty] at hback
      rw [← hback] at hx
      exact absurd hx (by decide)
    rw [← snakeToCamel_camelToSnake_iff _ (isAscii_snakeToCamel x hx.ascii) hne
      (no_underscore_snakeToCamel x), hx.restored]
  · exact isSnakeForm_camelToSnake y hy.ascii hy.ne_empty hy.no_underscore
  · exact (snakeToCamel_camelToSnake_iff y hy.ascii hy.ne_empty hy.no_underscore).mpr hy

/-- A digit at the end of the last word does no harm, while `a_b_c` loses an underscore and
`HTTPServer` its capitals. -/
theorem forms_correspond_line :
    snakeToCamel "line_of_b2" = "lineOfB2" ∧ IsCamelForm "lineOfB2" ∧
    camelToSnake "lineOfB2" = "line_of_b2" ∧ IsSnakeForm "line_of_b2" ∧
    camelToSnake (snakeToCamel "a_b_c") ≠ "a_b_c" ∧
    snakeToCamel (camelToSnake "HTTPServer") ≠ "HTTPServer" := by
  obtain ⟨hsnake, hcamel, hback, hforth⟩ := forms_correspond
  have hx := hsnake "line_of_b2" (by decide)
  have hy := hcamel "lineOfB2" (by decide)
  have hname : snakeToCamel "line_of_b2" = "lineOfB2" := by decide
  rw [hname] at hx
  exact ⟨hname, hx.1, hx.2, hx.2 ▸ hy.1,
    fun h => absurd ((hback "a_b_c" (by decide) (by decide)).mp h) (by decide),
    fun h => absurd ((hforth "HTTPServer" (by decide) (by decide) (by decide)).mp h) (by decide)⟩

end CrudLayer.Naming
