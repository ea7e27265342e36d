import Mathlib

namespace CrudLayer

def closing? (c : Char) : Option Char :=
  if c = '(' then some ')' else if c = '\x7b' then some '\x7d' else none

def isClosing (c : Char) : Bool := c == ')' || c == '\x7d'

/-- Every bracket is closed by one of its kind, and the brackets between the two are nested as
well. -/
inductive Nested : List Char → Prop
  | nil : Nested []
  | other {c : Char} {rest : List Char} (hopen : closing? c = none) (hclose : isClosing c = false)
      (hrest : Nested rest) : Nested (c :: rest)
  | pair {c d : Char} {inside rest : List Char} (h : closing? c = some d) (hinside : Nested inside)
      (hrest : Nested rest) : Nested (c :: (inside ++ d :: rest))

/-- The closing brackets that are awaited after a character, the next one first. There are none
where a bracket is closed that is not the next. -/
def await? (waiting : List Char) (c : Char) : Option (List Char) :=
  match closing? c with
  | some d => some (d :: waiting)
  | none =>
    if isClosing c then if waiting.head? = some c then some waiting.tail else none
    else some waiting

def awaited? (waiting cs : List Char) : Option (List Char) := cs.foldlM await? waiting

theorem awaited?_cons (waiting : List Char) (c : Char) (cs : List Char) :
    awaited? waiting (c :: cs) = (await? waiting c).bind (awaited? · cs) := rfl

/-- A text is scanned from where the one before it has left off. -/
theorem awaited?_append (waiting as bs : List Char) :
    awaited? waiting (as ++ bs) = (awaited? waiting as).bind (awaited? · bs) :=
  List.foldlM_append

theorem await?_opening {c d : Char} (h : closing? c = some d) (waiting : List Char) :
    await? waiting c = some (d :: waiting) := by
  rw [await?, h]

theorem await?_other {c : Char} (hopen : closing? c = none) (hclose : isClosing c = false)
    (waiting : List Char) : await? waiting c = some waiting := by
  rw [await?, hopen]
  simp [hclose]

/-- What closes a bracket opens none. -/
theorem closing?_of_closing? {c d : Char} (h : closing? c = some d) :
    closing? d = none ∧ isClosing d = true := by
  unfold closing? at h
  split_ifs at h
  · obtain rfl : ')' = d := by simpa using h
    decide
  · obtain rfl : '\x7d' = d := by simpa using h
    decide

theorem await?_closing {c d : Char} (h : closing? c = some d) (waiting : List Char) :
    await? (d :: waiting) d = some waiting := by
  obtain ⟨hopen, hclose⟩ := closing?_of_closing? h
  rw [await?, hopen]
  simp [hclose]

/-- Only the brackets of a text matter. -/
theorem awaited?_filter (keep : Char → Bool)
    (h : ∀ c, keep c = false → closing? c = none ∧ isClosing c = false) (waiting cs : List Char) :
    awaited? waiting (cs.filter keep) = awaited? waiting cs := by
  induction cs generalizing waiting with
  | nil => rfl
  | cons c cs ih =>
    by_cases hc : keep c = true
    · rw [List.filter_cons_of_pos hc, awaited?_cons, awaited?_cons]
      cases await? waiting c with
      | none => rfl
      | some next => exact ih next
    · obtain ⟨hopen, hclose⟩ := h c (by simpa using hc)
      rw [List.filter_cons_of_neg hc, awaited?_cons, await?_other hopen hclose,
        Option.bind_some, ih]

/-- What is nested leaves the surroundings as they are. -/
theorem Nested.awaited?_eq {cs : List Char} (h : Nested cs) (waiting : List Char) :
    awaited? waiting cs = some waiting := by
  induction h generalizing waiting with
  | nil => rfl
  | other hopen hclose _ ih =>
    rw [awaited?_cons, await?_other hopen hclose, Option.bind_some, ih]
  | pair h _ _ ihinside ihrest =>
    rw [awaited?_cons, await?_opening h, Option.bind_some, awaited?_append, ihinside,
      Option.bind_some, awaited?_cons, await?_closing h, Option.bind_some, ihrest]

/-- Nested texts are nested one after the other. -/
theorem Nested.append {as bs : List Char} (ha : Nested as) (hb : Nested bs) :
    Nested (as ++ bs) := by
  induction ha with
  | nil => exact hb
  | other hopen hclose _ ih => exact .other hopen hclose ih
  | pair h hinside _ _ ih =>
    rw [List.cons_append, List.append_assoc, List.cons_append]
    exact .pair h hinside ih

theorem nested_flatten (css : List (List Char)) (h : ∀ cs ∈ css, Nested cs) :
    Nested css.flatten := by
  induction css with
  | nil => exact .nil
  | cons cs css ih =>
    rw [List.forall_mem_cons] at h
    exact h.1.append (ih h.2)

/-- A nested text makes no difference to what is awaited. -/
theorem Nested.awaited?_insert {inside : List Char} (h : Nested inside)
    (waiting as bs : List Char) :
    awaited? waiting (as ++ inside ++ bs) = awaited? waiting (as ++ bs) := by
  rw [List.append_assoc, awaited?_append, awaited?_append waiting as bs]
  refine Option.bind_congr fun next _ => ?_
  rw [awaited?_append, h.awaited?_eq, Option.bind_some]

/-- The text closes the awaited brackets one after the other, and is nested before, between and
after them. -/
def Unwinds : List Char → List Char → Prop
  | [], cs => Nested cs
  | d :: outer, cs => ∃ inside rest, cs = inside ++ d :: rest ∧ Nested inside ∧ Unwinds outer rest

theorem Unwinds.prepend {as waiting cs : List Char} (ha : Nested as) (h : Unwinds waiting cs) :
    Unwinds waiting (as ++ cs) := by
  cases waiting with
  | nil => exact ha.append h
  | cons d outer =>
    obtain ⟨inside, rest, rfl, hinside, hrest⟩ := h
    exact ⟨as ++ inside, rest, by rw [List.append_assoc], ha.append hinside, hrest⟩

/-- If nothing is awaited at the end, the text has closed all that was. -/
theorem unwinds_of_awaited? (waiting cs : List Char) (h : awaited? waiting cs = some []) :
    Unwinds waiting cs := by
  -- By induction on the text, for all brackets that may be awaited before it.
  induction cs generalizing waiting with
  | nil =>
    obtain rfl : waiting = [] := by simpa [awaited?] using h
    exact .nil
  | cons c cs ih =>
    rw [awaited?_cons] at h
    cases hc : closing? c with
    | some d =>
      rw [await?_opening hc] at h
      obtain ⟨inside, rest, rfl, hinside, hrest⟩ := ih _ h
      -- The bracket opened here is the first one awaited, so it is closed before all others.
      have hsplit : c :: (inside ++ d :: rest) = (c :: (inside ++ d :: [])) ++ rest := by simp
      rw [hsplit]
      exact hrest.prepend (.pair hc hinside .nil)
    | none =>
      by_cases hclose : isClosing c = true
      · obtain ⟨next, hnext, hrest⟩ := Option.bind_eq_some_iff.mp h
        simp only [await?, hc, hclose, if_true, Option.ite_none_right_eq_some,
          Option.some.injEq] at hnext
        obtain ⟨hhead, rfl⟩ := hnext
        obtain ⟨outer, rfl⟩ := List.head?_eq_some_iff.mp hhead
        exact ⟨[], cs, rfl, .nil, ih outer hrest⟩
      · have hother : isClosing c = false := by simpa using hclose
        rw [await?_other hc hother] at h
        exact (ih waiting h).prepend (.other hc hother .nil)

/-- A text is nested if nothing is awaited after it. -/
theorem nested_iff (cs : List Char) : Nested cs ↔ awaited? [] cs = some [] :=
  ⟨fun h => h.awaited?_eq [], unwinds_of_awaited? [] cs⟩

instance (cs : List Char) : Decidable (Nested cs) := decidable_of_iff _ (nested_iff cs).symm

end CrudLayer
