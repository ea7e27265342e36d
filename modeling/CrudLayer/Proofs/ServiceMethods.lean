import Mathlib
import CrudLayer.Proofs.Imports
import CrudLayer.Proofs.Tokens

namespace CrudLayer

open Listing

structure MethodHead where
  result : List Token
  name : List Char
  parameters : List (List Token × List Char)
  deriving DecidableEq

/-- A method that is called on a variable with so many arguments, or referred to without any. -/
structure MethodUse where
  receiver : List Char
  method : List Char
  arguments : Option Nat
  deriving DecidableEq

def Signature.head (s : Signature) : MethodHead where
  result := Token.ofLine s.result.toList
  name := s.name.toList
  parameters := s.parameters.map fun p => (Token.ofLine p.1.toList, p.2.toList)

/-- The method has the name that is used and, if it is called, takes as many arguments. -/
def MethodHead.Serves (m : MethodHead) (u : MethodUse) : Prop :=
  m.name = u.method ∧ ∀ n ∈ u.arguments, m.parameters.length = n

instance (m : MethodHead) (u : MethodUse) : Decidable (m.Serves u) :=
  inferInstanceAs (Decidable (_ ∧ _))

namespace Token

def isNote : Token → Bool
  | note _ => true
  | _ => false

def between (depth : Nat) : List Token → List (List Token)
  | [] => [[]]
  | t :: ts =>
    if t = .mark ')' ∧ depth = 0 then [[]]
    else if t = .mark ',' ∧ depth = 0 then [] :: between 0 ts
    else (between (t.nest depth) ts).modifyHead (t :: ·)

def arguments (ts : List Token) : List (List Token) :=
  if between 0 ts = [[]] then [] else between 0 ts

def typed? (ts : List Token) : Option (List Token × List Char) :=
  match (ts.filter (!·.isNote)).reverse with
  | .word name :: t :: type => some ((t :: type).reverse, name)
  | _ => none

def head? (ts : List Token) : Option MethodHead :=
  (typed? (ts.takeWhile (· ≠ .mark '('))).bind fun p =>
    ((arguments (ts.dropWhile (· ≠ .mark '(')).tail).mapM typed?).map (MethodHead.mk p.1 p.2)

/-- The methods of an interface, if all that ends in semicolons in its body are heads of methods. -/
def declaredMethods (ts : List Token) : Option (List MethodHead) :=
  ((ts.dropWhile (· ≠ .mark '\x7b')).tail.splitOnP (· = .mark ';')).dropLast.mapM head?

def overriding? : List Token → Option (List Token)
  | .note name :: ts => if name = "Override".toList then some ts else none
  | _ => none

def beforeBody (ts : List Token) : List Token :=
  (ts.takeWhile (· ≠ .mark '\x7b')).filter (!·.isNote)

def publicHead? (ts : List Token) : Option MethodHead :=
  match beforeBody ts with
  | .word w :: rest => if w = "public".toList then head? rest else none
  | _ => none

/-- The methods of a class that override others, if all of them are public methods. -/
def overridingMethods (ts : List Token) : Option (List MethodHead) :=
  (ts.tails.filterMap overriding?).mapM publicHead?

/-- A class and the one interface that it implements. -/
def implements? (ts : List Token) : Option (List Char × List Char) :=
  match beforeBody ts with
  | [.word visibility, .word kind, .word name, .word relation, .word interface] =>
    if [visibility, kind, relation] = ["public".toList, "class".toList, "implements".toList] then
      some (name, interface)
    else none
  | _ => none

def use? : List Token → Option MethodUse
  | .word r :: .mark '.' :: .word m :: .mark '(' :: ts => some ⟨r, m, some (arguments ts).length⟩
  | .word r :: .mark ':' :: .mark ':' :: .word m :: _ => some ⟨r, m, none⟩
  | _ => none

/-- What is used of a variable, in order. -/
def usesOf (receiver : List Char) (ts : List Token) : List MethodUse :=
  (ts.tails.filterMap use?).filter (·.receiver = receiver)

end Token

def MethodHead.fill (σ : Char → List Char) (m : MethodHead) : MethodHead where
  result := m.result.map (Token.fill σ)
  name := m.name.flatMap σ
  parameters := m.parameters.map fun p => (p.1.map (Token.fill σ), p.2.flatMap σ)

def MethodUse.fill (σ : Char → List Char) (u : MethodUse) : MethodUse :=
  ⟨u.receiver.flatMap σ, u.method.flatMap σ, u.arguments⟩

theorem MethodHead.Serves.fill {m : MethodHead} {u : MethodUse} (h : m.Serves u)
    (σ : Char → List Char) : (m.fill σ).Serves (u.fill σ) := by
  refine ⟨congrArg (·.flatMap σ) h.1, fun n hn => ?_⟩
  rw [MethodHead.fill, List.length_map]
  exact h.2 n hn

namespace Token

theorem mapM_map_of_comm {α β : Type} {f : α → Option β} {g : α → α} {k : β → β}
    (h : ∀ a b, f a = some b → f (g a) = some (k b)) (as : List α) (bs : List β)
    (hbs : as.mapM f = some bs) : (as.map g).mapM f = some (bs.map k) := by
  induction as generalizing bs with
  | nil =>
    obtain rfl : [] = bs := by simpa using hbs
    rfl
  | cons a as ih =>
    simp only [List.mapM_cons, Option.bind_eq_bind, Option.bind_eq_some_iff, Option.pure_def,
      Option.some.injEq] at hbs
    obtain ⟨b, hb, rest, hrest, rfl⟩ := hbs
    simp [List.mapM_cons, h a b hb, ih rest hrest]

/-- A list is cut at the same places after a map that keeps them. -/
theorem splitOnP_map {α β : Type} (g : α → β) (p : β → Bool) (as : List α) :
    (as.map g).splitOnP p = (as.splitOnP (p ∘ g)).map (List.map g) := by
  induction as with
  | nil => rfl
  | cons a as ih =>
    obtain ⟨w, ws, hws⟩ := List.exists_cons_of_ne_nil (List.splitOnP_ne_nil (p ∘ g) as)
    rw [List.map_cons, List.splitOnP_cons_eq_if_modifyHead, List.splitOnP_cons_eq_if_modifyHead,
      ih, hws]
    by_cases ha : p (g a) = true <;> simp [ha]

section Fill

variable (σ : Char → List Char)

/-- Only a word is a word when it is filled in. -/
theorem fill_eq_word_iff (t : Token) (w : List Char) :
    t.fill σ = .word w ↔ ∃ v, t = .word v ∧ v.flatMap σ = w := by
  cases t <;> simp [fill]

@[simp]
theorem isNote_fill (t : Token) : (t.fill σ).isNote = t.isNote := by
  cases t <;> rfl

theorem filter_isNote_map (ts : List Token) :
    (ts.map (fill σ)).filter (!·.isNote) = (ts.filter (!·.isNote)).map (fill σ) := by
  rw [List.filter_map]
  simp [Function.comp_def]

theorem takeWhile_mark_map (c : Char) (ts : List Token) :
    (ts.map (fill σ)).takeWhile (· ≠ .mark c) = (ts.takeWhile (· ≠ .mark c)).map (fill σ) := by
  rw [List.takeWhile_map]
  simp [Function.comp_def]

theorem dropWhile_mark_map (c : Char) (ts : List Token) :
    (ts.map (fill σ)).dropWhile (· ≠ .mark c) = (ts.dropWhile (· ≠ .mark c)).map (fill σ) := by
  rw [List.dropWhile_map]
  simp [Function.comp_def]

/-- Commas part the same tokens after names are filled in. -/
theorem between_map (depth : Nat) (ts : List Token) :
    between depth (ts.map (fill σ)) = (between depth ts).map (List.map (fill σ)) := by
  induction ts generalizing depth with
  | nil => rfl
  | cons t ts ih =>
    simp only [List.map_cons, between, fill_eq_mark_iff, nest_fill, ih]
    split
    · rfl
    · split
      · rfl
      · cases between (t.nest depth) ts <;> rfl

theorem arguments_map (ts : List Token) :
    arguments (ts.map (fill σ)) = (arguments ts).map (List.map (fill σ)) := by
  have hnone : (between 0 ts).map (List.map (fill σ)) = [[]] ↔ between 0 ts = [[]] := by
    simp [List.map_eq_singleton_iff]
  simp only [arguments, between_map, hnone]
  split <;> rfl

theorem typed?_map (ts : List Token) (p : List Token × List Char) (h : typed? ts = some p) :
    typed? (ts.map (fill σ)) = some (p.1.map (fill σ), p.2.flatMap σ) := by
  unfold typed? at h ⊢
  rw [filter_isNote_map, ← List.map_reverse]
  split at h
  · rename_i name t type heq
    rw [heq, ← Option.some.inj h]
    simp [fill]
  · exact absurd h (by simp)

/-- A head is read alike after names are filled in. -/
theorem head?_map (ts : List Token) (m : MethodHead) (h : head? ts = some m) :
    head? (ts.map (fill σ)) = some (m.fill σ) := by
  obtain ⟨p, hp, hrest⟩ := Option.bind_eq_some_iff.mp h
  obtain ⟨parameters, hparameters, rfl⟩ := Option.map_eq_some_iff.mp hrest
  have hfilled := mapM_map_of_comm (typed?_map σ) _ _ hparameters
  rw [head?, takeWhile_mark_map, typed?_map σ _ _ hp, dropWhile_mark_map, ← List.map_tail,
    arguments_map]
  simp only [Option.bind_some, hfilled]
  rfl

/-- So are the methods of an interface. -/
theorem declaredMethods_map (ts : List Token) (ms : List MethodHead)
    (h : declaredMethods ts = some ms) :
    declaredMethods (ts.map (fill σ)) = some (ms.map (MethodHead.fill σ)) := by
  have hend : (fun t : Token => decide (t = .mark ';')) ∘ fill σ =
      fun t => decide (t = .mark ';') := by
    funext t
    simp
  have hpieces (rest : List Token) : ((rest.map (fill σ)).splitOnP (· = .mark ';')).dropLast =
      (rest.splitOnP (· = .mark ';')).dropLast.map (List.map (fill σ)) := by
    rw [splitOnP_map, List.map_dropLast, hend]
  rw [declaredMethods, dropWhile_mark_map, ← List.map_tail, hpieces]
  exact mapM_map_of_comm (head?_map σ) _ _ h

theorem beforeBody_map (ts : List Token) :
    beforeBody (ts.map (fill σ)) = (beforeBody ts).map (fill σ) := by
  rw [beforeBody, takeWhile_mark_map, filter_isNote_map]
  rfl

theorem use?_map (ts : List Token) :
    use? (ts.map (fill σ)) = (use? ts).map (MethodUse.fill σ) := by
  fun_cases use? ts with
  | case1 r m ts =>
    have hlength : (arguments (ts.map (fill σ))).length = (arguments ts).length := by
      rw [arguments_map, List.length_map]
    simp [use?, fill, MethodUse.fill, hlength]
  | case2 r m ts => simp [use?, fill, MethodUse.fill]
  | case3 rest hcall hreference =>
    -- Only tokens that begin with a use are filled in to begin with one.
    unfold use?
    split
    · rename_i r m rest heq
      simp only [List.map_eq_cons_iff, fill_eq_word_iff, fill_eq_mark_iff] at heq
      obtain ⟨_, _, rfl, ⟨v, rfl, -⟩, _, _, rfl, rfl, _, _, rfl, ⟨w, rfl, -⟩, _, _, rfl, rfl, -⟩ :=
        heq
      exact absurd rfl (hcall v w _)
    · rename_i r m rest heq
      simp only [List.map_eq_cons_iff, fill_eq_word_iff, fill_eq_mark_iff] at heq
      obtain ⟨_, _, rfl, ⟨v, rfl, -⟩, _, _, rfl, rfl, _, _, rfl, rfl, _, _, rfl, ⟨w, rfl, -⟩, -⟩ :=
        heq
      exact absurd rfl (hreference v w _)
    · rfl

theorem filterMap_use?_map (ts : List Token) :
    (ts.map (fill σ)).tails.filterMap use? = (ts.tails.filterMap use?).map (MethodUse.fill σ) := by
  rw [List.map_tails, List.filterMap_map, List.map_filterMap]
  exact List.filterMap_congr fun rest _ => use?_map σ rest

end Fill

def IsFixed (w : List Char) : Prop := w.all (·.toNat < 0x80) = true

instance (w : List Char) : Decidable (IsFixed w) := inferInstanceAs (Decidable (_ = true))

def isFixedNote : Token → Bool
  | .note name => decide (IsFixed name)
  | _ => true

section Fixed

variable (σ : Filling)

theorem fill_eq_note_iff (t : Token) (ht : isFixedNote t = true) (name : List Char) :
    t.fill σ.spelling = .note name ↔ t = .note name := by
  cases t with
  | word letters => simp [fill]
  | mark c => simp [fill]
  | note n => simp [fill, σ.flatMap_spelling_ascii n (of_decide_eq_true ht)]

theorem publicHead?_map (ts : List Token) (m : MethodHead) (h : publicHead? ts = some m) :
    publicHead? (ts.map (fill σ.spelling)) = some (m.fill σ.spelling) := by
  unfold publicHead? at h ⊢
  rw [beforeBody_map]
  split at h
  · rename_i w rest heq
    obtain ⟨hw, hrest⟩ := Option.ite_none_right_eq_some.mp h
    have hfixed : w.flatMap σ.spelling = w := by
      rw [hw]
      exact σ.flatMap_spelling_ascii _ (by decide)
    simp only [heq, List.map_cons, fill, hfixed, if_pos hw]
    exact head?_map σ.spelling rest m hrest
  · exact absurd h (by simp)

/-- No name is filled in for an annotation, so the same methods are said to override others. -/
theorem filterMap_overriding?_map (ts : List Token)
    (hfixed : ∀ name, .note name ∈ ts → IsFixed name) :
    (ts.map (fill σ.spelling)).tails.filterMap overriding? =
      (ts.tails.filterMap overriding?).map (List.map (fill σ.spelling)) := by
  rw [List.map_tails, List.filterMap_map, List.map_filterMap]
  apply List.filterMap_congr
  intro rest hrest
  have hsuffix : rest <:+ ts := (List.mem_tails _ _).mp hrest
  match rest, hsuffix with
  | [], _ => rfl
  | .word w :: rest, _ => rfl
  | .mark c :: rest, _ => rfl
  | .note name :: rest, hs =>
    have hname := σ.flatMap_spelling_ascii name (hfixed name (hs.subset (by simp)))
    simp only [Function.comp_apply, List.map_cons, fill, hname, overriding?]
    split <;> rfl

theorem overridingMethods_map (ts : List Token) (ms : List MethodHead)
    (hfixed : ∀ name, .note name ∈ ts → IsFixed name) (h : overridingMethods ts = some ms) :
    overridingMethods (ts.map (fill σ.spelling)) = some (ms.map (MethodHead.fill σ.spelling)) := by
  rw [overridingMethods, filterMap_overriding?_map σ ts hfixed]
  exact mapM_map_of_comm (publicHead?_map σ) _ _ h

theorem implements?_map (ts : List Token) (name interface : List Char)
    (h : implements? ts = some (name, interface)) :
    implements? (ts.map (fill σ.spelling)) =
      some (name.flatMap σ.spelling, interface.flatMap σ.spelling) := by
  unfold implements? at h ⊢
  rw [beforeBody_map]
  split at h
  · rename_i visibility kind name' relation interface' heq
    obtain ⟨hwords, hpair⟩ := Option.ite_none_right_eq_some.mp h
    obtain ⟨rfl, rfl⟩ := Prod.mk.inj (Option.some.inj hpair)
    simp only [List.cons.injEq, and_true] at hwords
    obtain ⟨rfl, rfl, rfl⟩ := hwords
    have hpublic := σ.flatMap_spelling_ascii "public".toList (by decide)
    have hclass := σ.flatMap_spelling_ascii "class".toList (by decide)
    have himplements := σ.flatMap_spelling_ascii "implements".toList (by decide)
    simp only [heq, List.map_cons, List.map_nil, fill, hpublic, hclass, himplements]
    rfl
  · exact absurd h (by simp)

end Fixed

end Token

theorem ServiceOperation.isFixed_name (o : ServiceOperation) : Token.IsFixed o.name.toList := by
  cases o <;> decide

end CrudLayer
