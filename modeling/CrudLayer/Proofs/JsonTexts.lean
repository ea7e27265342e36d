import Mathlib
import CrudLayer.Text.Json
import CrudLayer.Text.Reading

namespace CrudLayer.JsonValue

def unquoteChar? : List Char → Option (Char × List Char)
  | '\\' :: 'u' :: r => (Text.number? 16 (r.take 4)).map fun n => (Char.ofNat n, r.drop 4)
  | '\\' :: letter :: r => (escapeLetters.find? (·.2 == letter)).map fun p => (p.1, r)
  | c :: r => some (c, r)
  | [] => none

theorem hexDigits_control : ∀ n < 0x20,
    (Text.hexDigits 4 n).length = 4 ∧ Text.number? 16 (Text.hexDigits 4 n) = some n := by
  decide

theorem unquoteChar?_letter : ∀ p ∈ escapeLetters,
    p.2 ≠ 'u' ∧ escapeLetters.find? (·.2 == p.2) = some p := by
  decide

/-- A character inside quotes is read back, whatever follows it. -/
theorem unquoteChar?_quoteChar (c : Char) (r : List Char) :
    unquoteChar? (quoteChar c ++ r) = some (c, r) := by
  rw [quoteChar]
  cases hletter : escapeLetters.lookup c with
  | some letter =>
    obtain ⟨before, after, hsplit, -⟩ := List.lookup_eq_some_iff.mp hletter
    have hmem : (c, letter) ∈ escapeLetters := by simp [hsplit]
    obtain ⟨hu, hfind⟩ := unquoteChar?_letter _ hmem
    simp [unquoteChar?, hfind]
  | none =>
    have hbackslash : c ≠ '\\' := by
      rintro rfl
      exact absurd hletter (by decide)
    by_cases hcontrol : c.toNat < 0x20
    · obtain ⟨hlength, hnumber⟩ := hexDigits_control c.toNat hcontrol
      simp [hcontrol, unquoteChar?, List.take_left' hlength, List.drop_left' hlength, hnumber]
    · simp [hcontrol, unquoteChar?, hbackslash]

theorem quoteChar_append_inj {c d : Char} {r r' : List Char}
    (h : quoteChar c ++ r = quoteChar d ++ r') : c = d ∧ r = r' := by
  have hread := congrArg unquoteChar? h
  rw [unquoteChar?_quoteChar, unquoteChar?_quoteChar] at hread
  simpa using hread

/-- No character inside quotes looks like the closing quote. -/
theorem quoteChar_ne_quote (c : Char) (r r' : List Char) : quoteChar c ++ r ≠ '"' :: r' := by
  intro h
  have hread := congrArg unquoteChar? h
  rw [unquoteChar?_quoteChar] at hread
  obtain rfl : c = '"' := by simpa [unquoteChar?] using congrArg (Option.map (·.1)) hread
  exact absurd h (by simp [quoteChar, escapeLetters])

theorem quoteChars_append_inj {cs ds r r' : List Char}
    (h : cs.flatMap quoteChar ++ '"' :: r = ds.flatMap quoteChar ++ '"' :: r') :
    cs = ds ∧ r = r' := by
  induction cs generalizing ds with
  | nil =>
    cases ds with
    | nil => simpa using h
    | cons d ds =>
      rw [List.flatMap_cons, List.append_assoc] at h
      exact absurd h.symm (quoteChar_ne_quote d _ _)
  | cons c cs ih =>
    cases ds with
    | nil =>
      rw [List.flatMap_cons, List.append_assoc] at h
      exact absurd h (quoteChar_ne_quote c _ _)
    | cons d ds =>
      rw [List.flatMap_cons, List.flatMap_cons, List.append_assoc, List.append_assoc] at h
      obtain ⟨rfl, hrest⟩ := quoteChar_append_inj h
      obtain ⟨rfl, rfl⟩ := ih hrest
      exact ⟨rfl, rfl⟩

theorem toList_quote_append (s : String) (r : List Char) :
    (quote s).toList ++ r = '"' :: (s.toList.flatMap quoteChar ++ '"' :: r) := by
  simp [quote]

/-- Where a quoted text ends can be seen from the text. -/
theorem quote_append_inj {s s' : String} {r r' : List Char}
    (h : (quote s).toList ++ r = (quote s').toList ++ r') : s = s' ∧ r = r' := by
  rw [toList_quote_append, toList_quote_append, List.cons.injEq] at h
  obtain ⟨hs, hr⟩ := quoteChars_append_inj h.2
  exact ⟨String.toList_inj.mp hs, hr⟩

/-- No number goes on into these characters. -/
def Ends (r : List Char) : Prop := ∀ c ∈ r.head?, c.isDigit = false

theorem digits_append_inj {ds es r r' : List Char} (hds : ∀ d ∈ ds, d.isDigit = true)
    (hes : ∀ d ∈ es, d.isDigit = true) (hr : Ends r) (hr' : Ends r') (h : ds ++ r = es ++ r') :
    ds = es ∧ r = r' := by
  have htake (r : List Char) (hr : Ends r) : r.takeWhile Char.isDigit = [] := by
    cases r with
    | nil => rfl
    | cons c r => simp [hr c rfl]
  have heq := congrArg (List.takeWhile Char.isDigit) h
  rw [List.takeWhile_append_of_pos hds, List.takeWhile_append_of_pos hes, htake r hr,
    htake r' hr', List.append_nil, List.append_nil] at heq
  subst heq
  exact ⟨rfl, List.append_cancel_left h⟩

theorem isDigit_of_mem_repr (n : Nat) : ∀ d ∈ n.repr.toList, d.isDigit = true := by
  intro d hd
  rw [Nat.repr_eq_ofList_toDigits, String.toList_ofList] at hd
  exact Nat.isDigit_of_mem_toDigits (by decide) (by decide) hd

/-- Where a number ends can be seen if no digit follows. -/
theorem repr_append_inj {n m : Nat} {r r' : List Char} (hr : Ends r) (hr' : Ends r')
    (h : n.repr.toList ++ r = m.repr.toList ++ r') : n = m ∧ r = r' := by
  obtain ⟨hrepr, hrest⟩ :=
    digits_append_inj (isDigit_of_mem_repr n) (isDigit_of_mem_repr m) hr hr' h
  exact ⟨Nat.repr_inj.mp (String.toList_inj.mp hrepr), hrest⟩

section Blocks

variable {α : Type} (code : α → String) (left right margin : String)

def row (margin item : String) : List Char := ',' :: '\n' :: (margin ++ "  " ++ item).toList

theorem toList_block_cons (item : String) (items : List String) :
    (block left right margin (item :: items)).toList =
      left.toList ++ '\n' :: ((margin ++ "  " ++ item).toList ++ (items.flatMap (row margin) ++
        '\n' :: (margin.toList ++ right.toList))) := by
  have hjoined : ((",\n".intercalate ((item :: items).map (margin ++ "  " ++ ·)))).toList =
      (margin ++ "  " ++ item).toList ++ items.flatMap (row margin) := by
    rw [String.toList_intercalate]
    induction items generalizing item with
    | nil => simp
    | cons next items ih =>
      have hnext := ih next
      simp only [List.map_cons, List.intercalate_cons_cons] at hnext ⊢
      rw [hnext]
      simp [row]
  rw [block, List.isEmpty_cons, if_neg Bool.false_ne_true]
  simp only [String.toList_append, hjoined]
  simp

theorem ends_rows (items : List String) (r : List Char) :
    Ends (items.flatMap (row margin) ++ '\n' :: r) := by
  cases items with
  | nil => simp [Ends]
  | cons item items => simp [Ends, row]

/-- Where the text of an item ends can be seen from the text. -/
def Separates (a : α) : Prop := ∀ b r r', Ends r → Ends r' →
  (code a).toList ++ r = (code b).toList ++ r' → a = b ∧ r = r'

variable {code}

/-- Items can be told apart if each of them can be told from what follows. -/
theorem rows_append_inj {as bs : List α} {r r' : List Char} (has : ∀ a ∈ as, Separates code a)
    (h : (as.map code).flatMap (row margin) ++ '\n' :: r =
      (bs.map code).flatMap (row margin) ++ '\n' :: r') : as = bs ∧ r = r' := by
  induction as generalizing bs with
  | nil =>
    cases bs with
    | nil => simpa using h
    | cons b bs => exact absurd h (by simp [row])
  | cons a as ih =>
    cases bs with
    | nil => exact absurd h (by simp [row])
    | cons b bs =>
      simp only [List.map_cons, List.flatMap_cons, row, List.cons_append, List.append_assoc,
        String.toList_append, List.cons.injEq, true_and, List.append_cancel_left_eq] at h
      obtain ⟨rfl, hrest⟩ := has a (by simp) b _ _ (ends_rows margin _ _) (ends_rows margin _ _) h
      obtain ⟨rfl, rfl⟩ := ih (fun a ha => has a (by simp [ha])) hrest
      exact ⟨rfl, rfl⟩

/-- What stands on the right of an empty block begins no line of another. -/
theorem block_nil_append_ne (item : String) (items : List String) (r r' : List Char)
    (hright : ∃ c close, right.toList = c :: close ∧ c ≠ '\n') :
    (block left right margin []).toList ++ r ≠
      (block left right margin (item :: items)).toList ++ r' := by
  obtain ⟨c, close, hclose, hc⟩ := hright
  intro h
  rw [toList_block_cons] at h
  simp only [block, List.isEmpty_nil, if_true, String.toList_append, hclose, List.append_assoc,
    List.append_cancel_left_eq, List.cons_append, List.cons.injEq] at h
  exact hc h.1

/-- The items between two brackets can be told from the text. -/
theorem block_append_inj {as bs : List α} {r r' : List Char} (has : ∀ a ∈ as, Separates code a)
    (hright : ∃ c close, right.toList = c :: close ∧ c ≠ '\n')
    (h : (block left right margin (as.map code)).toList ++ r =
      (block left right margin (bs.map code)).toList ++ r') : as = bs ∧ r = r' := by
  cases as with
  | nil =>
    cases bs with
    | nil => exact ⟨rfl, List.append_cancel_left h⟩
    | cons b bs => exact absurd h (block_nil_append_ne left right margin _ _ _ _ hright)
  | cons a as =>
    cases bs with
    | nil => exact absurd h.symm (block_nil_append_ne left right margin _ _ _ _ hright)
    | cons b bs =>
      rw [List.map_cons, List.map_cons, toList_block_cons, toList_block_cons] at h
      simp only [String.toList_append, List.append_assoc, List.append_cancel_left_eq,
        List.cons_append, List.cons.injEq, true_and] at h
      obtain ⟨rfl, hrest⟩ := has a (by simp) b _ _ (ends_rows margin _ _) (ends_rows margin _ _) h
      obtain ⟨rfl, htail⟩ := rows_append_inj margin (fun a ha => has a (by simp [ha])) hrest
      simp only [List.append_cancel_left_eq] at htail
      exact ⟨rfl, htail⟩

end Blocks

theorem prettyItems_eq_map (margin : String) (items : List JsonValue) :
    prettyItems margin items = items.map (pretty margin) := by
  induction items with
  | nil => rfl
  | cons v items ih => rw [prettyItems, ih, List.map_cons]

def prettyMember (margin : String) (m : String × JsonValue) : String :=
  quote m.1 ++ ": " ++ m.2.pretty margin

theorem prettyMembers_eq_map (margin : String) (members : List (String × JsonValue)) :
    prettyMembers margin members = members.map (prettyMember margin) := by
  induction members with
  | nil => rfl
  | cons m members ih => rw [prettyMembers, ih, List.map_cons, prettyMember]

/-- The character that the text of the value begins with, unless that is a digit. -/
def opener? : JsonValue → Option Char
  | text _ => some '"'
  | count _ => none
  | list _ => some '['
  | record _ => some '\x7b'

theorem exists_pretty_eq_cons (margin : String) (v : JsonValue) (r : List Char) :
    ∃ c rest, (pretty margin v).toList ++ r = c :: rest ∧
      v.opener? = if c.isDigit then none else some c := by
  have hblock (left right : String) (items : List String) :
      ∃ rest, (block left right margin items).toList ++ r = left.toList ++ rest := by
    cases items with
    | nil => exact ⟨right.toList ++ r, by simp [block]⟩
    | cons item items => exact ⟨_, by rw [toList_block_cons, List.append_assoc]⟩
  cases v with
  | text s => exact ⟨'"', _, toList_quote_append s r, rfl⟩
  | count n =>
    obtain ⟨d, ds, hds⟩ := List.exists_cons_of_ne_nil
      (show n.repr.toList ≠ [] by simp)
    have hd : d.isDigit = true := isDigit_of_mem_repr n d (by simp [hds])
    exact ⟨d, ds ++ r, by rw [pretty, hds, List.cons_append], by rw [if_pos hd, opener?]⟩
  | list items =>
    obtain ⟨rest, hrest⟩ := hblock "[" "]" (prettyItems (margin ++ "  ") items)
    exact ⟨'[', rest, by rw [pretty, hrest]; rfl, rfl⟩
  | record members =>
    obtain ⟨rest, hrest⟩ := hblock "\x7b" "\x7d" (prettyMembers (margin ++ "  ") members)
    exact ⟨'\x7b', rest, by rw [pretty, hrest]; rfl, rfl⟩

/-- Values with one text are of one kind. -/
theorem opener?_eq {margin : String} {v w : JsonValue} {r r' : List Char}
    (h : (pretty margin v).toList ++ r = (pretty margin w).toList ++ r') :
    v.opener? = w.opener? := by
  obtain ⟨c, rest, hc, hv⟩ := exists_pretty_eq_cons margin v r
  obtain ⟨d, rest', hd, hw⟩ := exists_pretty_eq_cons margin w r'
  rw [hc, hd, List.cons.injEq] at h
  rw [hv, hw, h.1]

/-- Where a member ends can be seen if that of its value can. -/
theorem separates_member {margin : String} {m : String × JsonValue}
    (h : Separates (pretty margin) m.2) : Separates (prettyMember margin) m := by
  intro m' r r' hr hr' heq
  simp only [prettyMember, String.toList_append, List.append_assoc] at heq
  obtain ⟨hname, hrest⟩ := quote_append_inj heq
  obtain ⟨hvalue, hr⟩ := h m'.2 r r' hr hr' (List.append_cancel_left hrest)
  exact ⟨Prod.ext hname hvalue, hr⟩

mutual

/-- By induction on the value: an item or a member is separated from what comes after it, and so the
whole is. -/
theorem separates_pretty (v : JsonValue) (margin : String) : Separates (pretty margin) v := by
  intro w r r' hr hr' h
  -- Values of two kinds begin with different characters.
  have hopener := opener?_eq h
  cases v with
  | text s =>
    cases w with
    | text s' =>
      obtain ⟨rfl, hrest⟩ := quote_append_inj h
      exact ⟨rfl, hrest⟩
    | _ => simp [opener?] at hopener
  | count n =>
    cases w with
    | count m =>
      obtain ⟨rfl, hrest⟩ := repr_append_inj hr hr' h
      exact ⟨rfl, hrest⟩
    | _ => simp [opener?] at hopener
  | list items =>
    cases w with
    | list items' =>
      rw [pretty, pretty, prettyItems_eq_map, prettyItems_eq_map] at h
      obtain ⟨rfl, hrest⟩ := block_append_inj "[" "]" margin
        (fun v hv => separates_of_mem items v hv (margin ++ "  ")) ⟨']', [], rfl, by decide⟩ h
      exact ⟨rfl, hrest⟩
    | _ => simp [opener?] at hopener
  | record members =>
    cases w with
    | record members' =>
      rw [pretty, pretty, prettyMembers_eq_map, prettyMembers_eq_map] at h
      obtain ⟨rfl, hrest⟩ := block_append_inj "\x7b" "\x7d" margin
        (fun m hm => separates_member (separates_of_mem_members members m hm (margin ++ "  ")))
        ⟨'\x7d', [], rfl, by decide⟩ h
      exact ⟨rfl, hrest⟩
    | _ => simp [opener?] at hopener

/-- Where each of these values ends can be seen from its text. -/
theorem separates_of_mem (items : List JsonValue) :
    ∀ v ∈ items, ∀ margin, Separates (pretty margin) v := by
  cases items with
  | nil => exact fun v hv => absurd hv List.not_mem_nil
  | cons v items => exact List.forall_mem_cons.mpr ⟨separates_pretty v, separates_of_mem items⟩

theorem separates_of_mem_members (members : List (String × JsonValue)) :
    ∀ m ∈ members, ∀ margin, Separates (pretty margin) m.2 := by
  cases members with
  | nil => exact fun m hm => absurd hm List.not_mem_nil
  | cons m members =>
    obtain ⟨name, v⟩ := m
    exact List.forall_mem_cons.mpr ⟨separates_pretty v, separates_of_mem_members members⟩

end

/-- No two values have one text. -/
theorem pretty_injective (margin : String) : Function.Injective (pretty margin) := by
  intro v w h
  have hends : Ends [] := fun c hc => absurd hc (by simp)
  have htext : (pretty margin v).toList ++ [] = (pretty margin w).toList ++ [] := by rw [h]
  exact (separates_pretty v margin w [] [] hends hends htext).1

end CrudLayer.JsonValue
