import Mathlib
import CrudLayer.Markup.Document

/-!
Places in a document. A place is the way down to a node: which child to take at each step. Places
are ordered as the document is, where a node comes before all that is in it and before its later
siblings.
-/
namespace CrudLayer.Markup

/-- The node at a place below this one. -/
def Node.descend? (n : Node) : List Nat → Option Node
  | [] => some n
  | i :: place => (n.children[i]?).bind (·.descend? place)

/-- The node at a place, the first step of which chooses among these nodes. -/
def descendIn? (ns : List Node) : List Nat → Option Node
  | [] => none
  | i :: place => (ns[i]?).bind (·.descend? place)

/-- Of the nodes that are found at places, this one has the property, and none at an earlier
place. -/
structure IsFirst (p : Node → Bool) (found : List Nat → Option Node) (place : List Nat) (n : Node) :
    Prop where
  found_at : found place = some n
  holds : p n = true
  before : ∀ earlier < place, ∀ m, found earlier = some m → p m = false

/-- The outcome of a search is the first node with the property, or nothing, where no node has
it. -/
def IsOutcome (p : Node → Bool) (found : List Nat → Option Node) : Option Node → Prop
  | some n => ∃ place, IsFirst p found place n
  | none => ∀ place n, found place = some n → p n = false

theorem IsFirst.ne_false {p : Node → Bool} {found : List Nat → Option Node} {place : List Nat}
    {n : Node} (h : IsFirst p found place n) : p n ≠ false := by
  rw [h.holds]
  decide

/-- There is at most one first node. -/
theorem IsFirst.unique {p : Node → Bool} {found : List Nat → Option Node} {place place' : List Nat}
    {n n' : Node} (h : IsFirst p found place n) (h' : IsFirst p found place' n') : n = n' := by
  -- The earlier of the two places would have a node without the property.
  have hplace : place = place' := by
    rcases lt_trichotomy place place' with hlt | heq | hgt
    · exact absurd (h'.before place hlt n h.found_at) h.ne_false
    · exact heq
    · exact absurd (h.before place' hgt n' h'.found_at) h'.ne_false
  have hsome : some n = some n' := by
    rw [← h.found_at, ← h'.found_at, hplace]
  exact Option.some_inj.mp hsome

variable (p : Node → Bool)

theorem isFirst_self (n : Node) (h : p n = true) : IsFirst p n.descend? [] n :=
  ⟨rfl, h, fun earlier hlt => absurd hlt (List.not_lt_nil earlier)⟩

/-- What comes right after a node that has not the property is the first to have it. -/
theorem isFirst_head (n child : Node) (hn : p n = false) (hchild : n.children.head? = some child)
    (h : p child = true) : IsFirst p n.descend? [0] child := by
  refine ⟨?_, h, fun earlier hlt m hm => ?_⟩
  · rw [List.head?_eq_getElem?] at hchild
    simp [Node.descend?, hchild]
  · cases earlier with
    | nil =>
      obtain rfl : n = m := Option.some_inj.mp hm
      exact hn
    | cons i earlier =>
      rcases List.cons_lt_cons_iff.mp hlt with hi | ⟨-, hnil⟩
      · omega
      · exact absurd hnil (List.not_lt_nil earlier)

theorem isOutcome_nil : IsOutcome p (descendIn? []) none := by
  intro place n hn
  cases place <;> exact absurd hn (by simp [descendIn?])

/-- A node is looked at before what is in it. -/
theorem isOutcome_node (n : Node) (inside : List Node)
    (h : IsOutcome p (descendIn? n.children) (inside.find? p)) :
    IsOutcome p n.descend? ((n :: inside).find? p) := by
  by_cases hn : p n = true
  · rw [List.find?_cons_of_pos hn]
    exact ⟨[], isFirst_self p n hn⟩
  · have hself : ∀ m, n.descend? [] = some m → p m = false := by
      intro m hm
      obtain rfl : n = m := Option.some_inj.mp hm
      simpa using hn
    rw [List.find?_cons_of_neg hn]
    cases hinside : inside.find? p with
    | none =>
      rw [hinside] at h
      intro place m hm
      cases place with
      | nil => exact hself m hm
      | cons i place => exact h (i :: place) m hm
    | some found =>
      rw [hinside] at h
      obtain ⟨place, hplace⟩ := h
      -- Nothing is found among the children without a first step.
      cases place with
      | nil => exact absurd hplace.found_at (by simp [descendIn?])
      | cons i place =>
        refine ⟨i :: place, hplace.found_at, hplace.holds, fun earlier hlt m hm => ?_⟩
        cases earlier with
        | nil => exact hself m hm
        | cons j earlier => exact hplace.before (j :: earlier) hlt m hm

/-- What is in a node comes before all that is in its later siblings. -/
theorem isOutcome_cons (n : Node) (rest : List Node) (inside later : Option Node)
    (h : IsOutcome p n.descend? inside) (hrest : IsOutcome p (descendIn? rest) later) :
    IsOutcome p (descendIn? (n :: rest)) (inside.or later) := by
  cases inside with
  | some found =>
    obtain ⟨place, hplace⟩ := h
    refine ⟨0 :: place, hplace.found_at, hplace.holds, fun earlier hlt m hm => ?_⟩
    cases earlier with
    | nil => exact absurd hm (by simp [descendIn?])
    | cons j earlier =>
      rcases List.cons_lt_cons_iff.mp hlt with hj | ⟨rfl, hbefore⟩
      · omega
      · exact hplace.before earlier hbefore m hm
  | none =>
    cases later with
    | none =>
      intro place m hm
      match place with
      | [] => exact absurd hm (by simp [descendIn?])
      -- A first step to this node, or past it.
      | 0 :: place => exact h place m hm
      | (i + 1) :: place => exact hrest (i :: place) m hm
    | some found =>
      obtain ⟨place, hplace⟩ := hrest
      cases place with
      | nil => exact absurd hplace.found_at (by simp [descendIn?])
      | cons i place =>
        refine ⟨(i + 1) :: place, hplace.found_at, hplace.holds, fun earlier hlt m hm => ?_⟩
        match earlier with
        | [] => exact absurd hm (by simp [descendIn?])
        | 0 :: earlier => exact h earlier m hm
        | (j + 1) :: earlier =>
          refine hplace.before (j :: earlier) ?_ m hm
          rw [List.cons_lt_cons_iff] at hlt ⊢
          rcases hlt with hj | ⟨hj, hlt⟩
          · left
            omega
          · right
            exact ⟨by omega, hlt⟩

mutual

/-- The first node in the list is the one at the first place. -/
theorem isOutcome_withDescendants (n : Node) :
    IsOutcome p n.descend? (n.withDescendants.find? p) := by
  cases n with
  | element space name attributes children =>
    exact isOutcome_node p _ _ (isOutcome_allWithDescendants children)
  | text content => exact isOutcome_node p (.text content) [] (isOutcome_nil p)
  | comment content => exact isOutcome_node p (.comment content) [] (isOutcome_nil p)
  | instruction target content =>
    exact isOutcome_node p (.instruction target content) [] (isOutcome_nil p)

theorem isOutcome_allWithDescendants (ns : List Node) :
    IsOutcome p (descendIn? ns) ((Node.allWithDescendants ns).find? p) := by
  cases ns with
  | nil => exact isOutcome_nil p
  | cons n rest =>
    rw [Node.allWithDescendants, List.find?_append]
    exact isOutcome_cons p n rest _ _ (isOutcome_withDescendants n)
      (isOutcome_allWithDescendants rest)

end

/-- A search through all nodes finds the first one. -/
theorem find?_withDescendants_of_isFirst (root : Node) (place : List Nat) (n : Node)
    (h : IsFirst p root.descend? place n) : root.withDescendants.find? p = some n := by
  have houtcome := isOutcome_withDescendants p root
  cases hfound : root.withDescendants.find? p with
  | none =>
    rw [hfound] at houtcome
    exact absurd (houtcome place n h.found_at) h.ne_false
  | some m =>
    rw [hfound] at houtcome
    obtain ⟨place', h'⟩ := houtcome
    rw [h'.unique h]

theorem find?_withDescendants_of_none (root : Node)
    (h : ∀ place n, root.descend? place = some n → p n = false) :
    root.withDescendants.find? p = none := by
  have houtcome := isOutcome_withDescendants p root
  cases hfound : root.withDescendants.find? p with
  | none => rfl
  | some m =>
    rw [hfound] at houtcome
    obtain ⟨place, hfirst⟩ := houtcome
    exact absurd (h place m hfirst.found_at) hfirst.ne_false

/-- The places where nodes with the property are found. -/
def placesOf (found : List Nat → Option Node) : Set (List Nat) :=
  {place | ∃ n, found place = some n ∧ p n = true}

def shifted : List Nat → List Nat
  | [] => []
  | i :: place => (i + 1) :: place

theorem shifted_injective : Function.Injective shifted := by
  intro place place' h
  match place, place', h with
  | [], [], _ => rfl
  | i :: place, j :: place', h =>
    simp only [shifted, List.cons.injEq, Nat.add_right_cancel_iff] at h
    rw [h.1, h.2]

theorem nil_notMem_placesOf_descendIn? (ns : List Node) : [] ∉ placesOf p (descendIn? ns) := by
  rintro ⟨n, hn, -⟩
  exact absurd hn (by simp [descendIn?])

theorem encard_placesOf_nil : (placesOf p (descendIn? [])).encard = 0 := by
  rw [Set.encard_eq_zero, Set.eq_empty_iff_forall_notMem]
  rintro place ⟨n, hn, -⟩
  cases place <;> exact absurd hn (by simp [descendIn?])

/-- A node is found at the empty place, and all else below a child. -/
theorem placesOf_descend? (n : Node) :
    placesOf p n.descend? =
      {place | place = [] ∧ p n = true} ∪ placesOf p (descendIn? n.children) := by
  ext place
  cases place with
  | nil =>
    rw [Set.mem_union, or_iff_left (nil_notMem_placesOf_descendIn? p n.children)]
    simp [placesOf, Node.descend?]
  | cons i place => simp [placesOf, Node.descend?, descendIn?]

/-- A node counts once, and then all that is in it. -/
theorem encard_placesOf_node (n : Node) (inside : List Node)
    (h : (placesOf p (descendIn? n.children)).encard = (inside.filter p).length) :
    (placesOf p n.descend?).encard = ((n :: inside).filter p).length := by
  by_cases hn : p n = true
  · have hself : {place : List Nat | place = [] ∧ p n = true} = {[]} := by
      ext place
      simp [hn]
    rw [placesOf_descend?, hself, Set.singleton_union,
      Set.encard_insert_of_notMem (nil_notMem_placesOf_descendIn? p _), h,
      List.filter_cons_of_pos hn, List.length_cons, Nat.cast_add, Nat.cast_one]
  · have hself : {place : List Nat | place = [] ∧ p n = true} = ∅ := by
      ext place
      simp [hn]
    rw [placesOf_descend?, hself, Set.empty_union, h, List.filter_cons_of_neg hn]

/-- Places lead into the first node or past it. -/
theorem placesOf_cons (n : Node) (rest : List Node) :
    placesOf p (descendIn? (n :: rest)) =
      (0 :: ·) '' placesOf p n.descend? ∪ shifted '' placesOf p (descendIn? rest) := by
  ext place
  match place with
  | [] =>
    have hleft := nil_notMem_placesOf_descendIn? p (n :: rest)
    have hright : [] ∉ shifted '' placesOf p (descendIn? rest) := by
      rintro ⟨place, hplace, hnil⟩
      obtain rfl : place = [] := shifted_injective hnil
      exact nil_notMem_placesOf_descendIn? p rest hplace
    simp [hleft, hright]
  -- A first step to this node, or past it.
  | 0 :: place =>
    have hright : 0 :: place ∉ shifted '' placesOf p (descendIn? rest) := by
      rintro ⟨place', -, h⟩
      cases place' <;> simp [shifted] at h
    rw [Set.mem_union, or_iff_left hright]
    simp [placesOf, descendIn?]
  | (i + 1) :: place =>
    have hright : (i + 1) :: place ∈ shifted '' placesOf p (descendIn? rest) ↔
        i :: place ∈ placesOf p (descendIn? rest) :=
      shifted_injective.mem_set_image (a := i :: place)
    rw [Set.mem_union, hright]
    simp [placesOf, descendIn?]

/-- The two kinds of places have none in common. -/
theorem encard_placesOf_cons (n : Node) (rest : List Node) :
    (placesOf p (descendIn? (n :: rest))).encard =
      (placesOf p n.descend?).encard + (placesOf p (descendIn? rest)).encard := by
  have hdisjoint : Disjoint ((0 :: ·) '' placesOf p n.descend?)
      (shifted '' placesOf p (descendIn? rest)) := by
    rw [Set.disjoint_left]
    rintro _ ⟨place, -, rfl⟩ ⟨place', -, h⟩
    cases place' <;> simp [shifted] at h
  rw [placesOf_cons, Set.encard_union_eq hdisjoint,
    Function.Injective.encard_image (List.cons_injective),
    shifted_injective.encard_image]

mutual

/-- A node with the property is in the list once for each place where it is found. -/
theorem encard_placesOf (n : Node) :
    (placesOf p n.descend?).encard = (n.withDescendants.filter p).length := by
  cases n with
  | element space name attributes children =>
    exact encard_placesOf_node p _ _ (encard_placesOf_all children)
  | text content => exact encard_placesOf_node p (.text content) [] (encard_placesOf_nil p)
  | comment content => exact encard_placesOf_node p (.comment content) [] (encard_placesOf_nil p)
  | instruction target content =>
    exact encard_placesOf_node p (.instruction target content) [] (encard_placesOf_nil p)

theorem encard_placesOf_all (ns : List Node) :
    (placesOf p (descendIn? ns)).encard = ((Node.allWithDescendants ns).filter p).length := by
  cases ns with
  | nil => exact encard_placesOf_nil p
  | cons n rest =>
    rw [encard_placesOf_cons, encard_placesOf n, encard_placesOf_all rest,
      Node.allWithDescendants, List.filter_append, List.length_append, Nat.cast_add]

end

end CrudLayer.Markup
