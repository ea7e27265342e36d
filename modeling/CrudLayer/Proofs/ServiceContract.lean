import Mathlib
import CrudLayer.Proofs.ServiceMethods

namespace CrudLayer

open Listing Token

def MethodHead.calledOn (receiver : List Char) (m : MethodHead) : MethodUse :=
  ⟨receiver, m.name, some m.parameters.length⟩

def fixedEnd (w : List Char) : List Char := w.reverse.takeWhile (·.toNat < 0x80)

/-- A receiver in a form is the variable, or differs from it in the fixed letters at its end. -/
def isTold (tail : List Char) (u : MethodUse) : Bool :=
  u.receiver == 'ω' :: tail || clash tail.reverse (fixedEnd u.receiver)

section Forms

/-- How the forms of the service's files fit together. The letter `ω` stands for the variable of the
entity, and `Ω` for the entity. -/
structure FormsAgree : Prop where
  declared : declaredMethods (formTokens .serviceInterface) =
    some (ServiceOperation.all.map fun o => (o.signature (Context.form [])).head)
  overriding : overridingMethods (formTokens .serviceImplementation) =
    some (ServiceOperation.all.map fun o => (o.signature (Context.form [])).head)
  implements : implements? (formTokens .serviceImplementation) =
    some ('Ω' :: ArtifactKind.serviceImplementation.suffix.toList,
      'Ω' :: ArtifactKind.serviceInterface.suffix.toList)
  calls : usesOf ('ω' :: "Service".toList) (formTokens .resourceHandler) =
    (ServiceOperation.all.map fun o => (o.signature (Context.form [])).head).map
      (MethodHead.calledOn ('ω' :: "Service".toList))
  uses : usesOf ('ω' :: "Mapper".toList) (formTokens .serviceImplementation) ≠ []
  mapped : (declaredMethods (formTokens .mapper)).isSome = true
  served : ∀ u ∈ usesOf ('ω' :: "Mapper".toList) (formTokens .serviceImplementation),
    ∃ m ∈ (declaredMethods (formTokens .mapper)).getD [], m.Serves u
  notes : (formTokens .serviceImplementation).all isFixedNote = true
  told_service :
    ((formTokens .resourceHandler).tails.filterMap use?).all (isTold "Service".toList) = true
  told_mapper :
    ((formTokens .serviceImplementation).tails.filterMap use?).all (isTold "Mapper".toList) = true

/-- The forms of the service's files fit together. -/
theorem formsAgree : FormsAgree where
  declared := by decide +kernel
  overriding := by decide +kernel
  implements := by decide +kernel
  calls := by decide +kernel
  uses := by decide +kernel
  mapped := by decide +kernel
  served := by decide +kernel
  notes := by decide +kernel
  told_service := by decide +kernel
  told_mapper := by decide +kernel

theorem FormsAgree.isFixed (h : FormsAgree) (name : List Char)
    (hname : .note name ∈ formTokens .serviceImplementation) : IsFixed name := by
  simpa [isFixedNote] using List.all_eq_true.mp h.notes _ hname

end Forms

namespace Filling

variable (σ : Filling)

/-- Words that differ in fixed letters at their ends differ when they are filled in. -/
theorem flatMap_spelling_ne (w tail : List Char) (htail : IsFixed tail)
    (h : clash tail.reverse (fixedEnd w) = true) :
    w.flatMap σ.spelling ≠ ('ω' :: tail).flatMap σ.spelling := by
  have hfixed : IsFixed (fixedEnd w).reverse := by
    apply List.all_eq_true.mpr
    intro c hc
    exact List.mem_takeWhile_imp (p := fun d : Char => decide (d.toNat < 0x80))
      (List.mem_reverse.mp hc)
  have hword : w = (w.reverse.dropWhile (·.toNat < 0x80)).reverse ++ (fixedEnd w).reverse := by
    rw [← List.reverse_append, fixedEnd, List.takeWhile_append_dropWhile, List.reverse_reverse]
  intro heq
  rw [hword, List.flatMap_append, σ.flatMap_spelling_ascii _ hfixed, List.flatMap_cons,
    σ.flatMap_spelling_ascii _ htail] at heq
  -- Read from the end, the two begin with what clashes.
  have hreverse := congrArg List.reverse heq
  rw [List.reverse_append, List.reverse_append, List.reverse_reverse] at hreverse
  exact append_ne_of_clash _ _ _ _ h hreverse.symm

/-- The uses of a variable in a file are those in its form, filled in. -/
theorem usesOf_map (tail : List Char) (htail : IsFixed tail) (ts : List Token)
    (hts : (ts.tails.filterMap use?).all (isTold tail) = true) :
    usesOf (('ω' :: tail).flatMap σ.spelling) (ts.map (Token.fill σ.spelling)) =
      (usesOf ('ω' :: tail) ts).map (MethodUse.fill σ.spelling) := by
  rw [usesOf, filterMap_use?_map, List.filter_map, usesOf]
  congr 1
  apply List.filter_congr
  intro u hu
  simp only [Function.comp_apply, decide_eq_decide]
  rcases Bool.or_eq_true_iff.mp (List.all_eq_true.mp hts u hu) with hself | hclash
  · rw [beq_iff_eq.mp hself]
    simp [MethodUse.fill, beq_iff_eq.mp hself]
  · have hfilled := σ.flatMap_spelling_ne u.receiver tail htail hclash
    refine ⟨fun heq => absurd heq hfilled, fun heq => ?_⟩
    rw [heq] at hfilled
    exact absurd rfl hfilled

theorem map_calledOn_fill (receiver : List Char) (ms : List MethodHead) :
    (ms.map (MethodHead.calledOn receiver)).map (MethodUse.fill σ.spelling) =
      (ms.map (MethodHead.fill σ.spelling)).map
        (MethodHead.calledOn (receiver.flatMap σ.spelling)) := by
  rw [List.map_map, List.map_map]
  apply List.map_congr_left
  intro m _
  simp [MethodHead.calledOn, MethodUse.fill, MethodHead.fill]

theorem toList_variable (suffix : String) (h : IsFixed suffix.toList) :
    (σ.context.entityVariable ++ suffix).toList =
      ('ω' :: suffix.toList).flatMap σ.spelling := by
  rw [List.flatMap_cons, spelling_variable, σ.flatMap_spelling_ascii _ h, String.toList_append]

theorem toList_typeName (k : ArtifactKind) :
    (σ.context.typeName k).toList = ('Ω' :: k.suffix.toList).flatMap σ.spelling := by
  have hfixed : IsFixed k.suffix.toList := by cases k <;> decide
  rw [List.flatMap_cons, spelling_entity, σ.flatMap_spelling_ascii _ hfixed, Context.typeName,
    ArtifactKind.typeName, String.toList_append]

variable {σ} (h : σ.IsSafe)

include h in
theorem IsSafe.ofLine_fill (s : String) (hs : 'π' ∉ unquoted false s.toList) :
    ofLine (σ.fill s).toList = (ofLine s.toList).map (Token.fill σ.spelling) := by
  rw [σ.toList_fill]
  exact h.ofLine_flatMap s.toList hs

include h in
/-- The head of an operation's method is that of the form, filled in. -/
theorem IsSafe.head_signature (o : ServiceOperation) :
    (o.signature (Context.form [])).head.fill σ.spelling = (o.signature σ.context).head := by
  have hresult : σ.fill (o.result (Context.form [])) = o.result σ.context := by
    cases o <;>
      simp (disch := first | with_reducible rfl | decide) only [ServiceOperation.result,
        ↓fill_append, fill_typeName, fill_fixed]
  have hname : o.name.toList.flatMap σ.spelling = o.name.toList :=
    σ.flatMap_spelling_ascii _ o.isFixed_name
  have hparameters : (o.parameters (Context.form [])).map (fun p => (σ.fill p.1, σ.fill p.2)) =
      o.parameters σ.context := by
    cases o <;>
      simp (disch := first | with_reducible rfl | decide) only [ServiceOperation.parameters,
        List.map_cons, List.map_nil, fill_typeName, fill_dtoVariable, fill_fixed]
  -- Only what has no dot in it is cut into words alike after it is filled in.
  have hpackage : 'π' ∉ unquoted false (o.result (Context.form [])).toList ∧
      ∀ p ∈ o.parameters (Context.form []), 'π' ∉ unquoted false p.1.toList := by
    cases o <;> decide +kernel
  rw [ServiceOperation.signature, ServiceOperation.signature, Signature.head, Signature.head,
    ← hresult, ← hparameters, h.ofLine_fill _ hpackage.1]
  simp only [MethodHead.fill, hname, List.map_map]
  refine congrArg (MethodHead.mk _ _) (List.map_congr_left fun p hp => ?_)
  rw [Function.comp_apply, Function.comp_apply, h.ofLine_fill _ (hpackage.2 p hp),
    σ.toList_fill p.2]

include h in
theorem IsSafe.map_head_signature :
    (ServiceOperation.all.map fun o => (o.signature (Context.form [])).head).map
        (MethodHead.fill σ.spelling) =
      ServiceOperation.all.map fun o => (o.signature σ.context).head := by
  rw [List.map_map]
  exact List.map_congr_left fun o _ => h.head_signature o

end Filling

section Accepted

variable (t : Table) (c : Config) (ht : t.checkNames = .ok ())
  (hc : Config.checkPackage c.basePackage = .ok ())

include ht hc

/-- The interface declares the methods of all operations. -/
theorem declaredMethods_interface :
    declaredMethods (ofText (ArtifactKind.serviceInterface.content (Context.ofTable t c))) =
      some (ServiceOperation.all.map fun o => (o.signature (Context.ofTable t c)).head) := by
  have h := Filling.isSafe_withoutField t c ht hc
  rw [ofText_content t c ht hc _ (by decide),
    declaredMethods_map _ _ _ formsAgree.declared, h.map_head_signature]

/-- The implementation overrides the methods of all operations. -/
theorem overridingMethods_implementation :
    overridingMethods (ofText (ArtifactKind.serviceImplementation.content (Context.ofTable t c))) =
      some (ServiceOperation.all.map fun o => (o.signature (Context.ofTable t c)).head) := by
  have h := Filling.isSafe_withoutField t c ht hc
  rw [ofText_content t c ht hc _ (by decide),
    overridingMethods_map _ _ _ formsAgree.isFixed formsAgree.overriding, h.map_head_signature]

/-- The resource calls the methods of all operations, each with as many arguments as it takes. -/
theorem usesOf_service :
    usesOf (Context.ofTable t c).serviceVariable.toList
        (ofText (ArtifactKind.resourceHandler.content (Context.ofTable t c))) =
      (ServiceOperation.all.map fun o => (o.signature (Context.ofTable t c)).head).map
        (MethodHead.calledOn (Context.ofTable t c).serviceVariable.toList) := by
  have h := Filling.isSafe_withoutField t c ht hc
  have hvariable : (Context.ofTable t c).serviceVariable.toList = ('ω' :: "Service".toList).flatMap
      (Filling.mk (Context.ofTable t c) (Field.form .text)).spelling :=
    Filling.toList_variable ⟨Context.ofTable t c, Field.form .text⟩ "Service" (by decide)
  rw [hvariable, ofText_content t c ht hc _ (by decide),
    Filling.usesOf_map _ _ (by decide) _ formsAgree.told_service, formsAgree.calls,
    Filling.map_calledOn_fill, h.map_head_signature]

/-- Whatever is used of the mapper, the mapper declares. -/
theorem usesOf_mapper :
    usesOf (Context.ofTable t c).mapperVariable.toList
        (ofText (ArtifactKind.serviceImplementation.content (Context.ofTable t c))) ≠ [] ∧
      ∃ ms, declaredMethods (ofText (ArtifactKind.mapper.content (Context.ofTable t c))) = some ms ∧
        ∀ u ∈ usesOf (Context.ofTable t c).mapperVariable.toList
          (ofText (ArtifactKind.serviceImplementation.content (Context.ofTable t c))),
          ∃ m ∈ ms, m.Serves u := by
  obtain ⟨ms, hms⟩ := Option.isSome_iff_exists.mp formsAgree.mapped
  have hserved := formsAgree.served
  rw [hms] at hserved
  -- In the form the mapper is held by the letter of the variable and this suffix.
  have hvariable : (Context.ofTable t c).mapperVariable.toList = ('ω' :: "Mapper".toList).flatMap
      (Filling.mk (Context.ofTable t c) (Field.form .text)).spelling :=
    Filling.toList_variable ⟨Context.ofTable t c, Field.form .text⟩ "Mapper" (by decide)
  rw [hvariable, ofText_content t c ht hc .serviceImplementation (by decide),
    ofText_content t c ht hc .mapper (by decide),
    Filling.usesOf_map _ _ (by decide) _ formsAgree.told_mapper]
  refine ⟨by simpa using formsAgree.uses, _, declaredMethods_map _ _ _ hms, fun u hu => ?_⟩
  obtain ⟨v, hv, rfl⟩ := List.mem_map.mp hu
  obtain ⟨m, hm, hserves⟩ := hserved v hv
  exact ⟨_, List.mem_map_of_mem hm, hserves.fill _⟩

/-- The implementation is a class for the interface. -/
theorem implements?_implementation :
    implements? (ofText (ArtifactKind.serviceImplementation.content (Context.ofTable t c))) =
      some (((Context.ofTable t c).typeName .serviceImplementation).toList,
        ((Context.ofTable t c).typeName .serviceInterface).toList) := by
  rw [ofText_content t c ht hc _ (by decide), implements?_map _ _ _ _ formsAgree.implements]
  simp only [← Filling.toList_typeName]

end Accepted

/-- The interface declares a method for each operation, with its signature. The class that says that
it implements the interface overrides just these methods, in this order. The resource calls each of
them on its variable for the service, with an argument for each parameter, and no other. Whatever
the class uses of its variable for the mapper, the mapper declares. -/
theorem service_files_agree (t : Table) (package : String) (path : Path) (c : Config)
    (ht : t.checkNames = .ok ()) (hc : Config.validate package path = .ok c) :
    ∃ methods mapped : List MethodHead,
      methods = ServiceOperation.all.map (fun o => (o.signature (Context.ofTable t c)).head) ∧
      declaredMethods (ofText (ArtifactKind.serviceInterface.content (Context.ofTable t c))) =
        some methods ∧
      overridingMethods
        (ofText (ArtifactKind.serviceImplementation.content (Context.ofTable t c))) = some methods ∧
      usesOf (Context.ofTable t c).serviceVariable.toList
          (ofText (ArtifactKind.resourceHandler.content (Context.ofTable t c))) =
        methods.map (MethodHead.calledOn (Context.ofTable t c).serviceVariable.toList) ∧
      declaredMethods (ofText (ArtifactKind.mapper.content (Context.ofTable t c))) = some mapped ∧
      usesOf (Context.ofTable t c).mapperVariable.toList
          (ofText (ArtifactKind.serviceImplementation.content (Context.ofTable t c))) ≠ [] ∧
      (∀ u ∈ usesOf (Context.ofTable t c).mapperVariable.toList
          (ofText (ArtifactKind.serviceImplementation.content (Context.ofTable t c))),
        ∃ m ∈ mapped, m.Serves u) ∧
      ∃ name interface,
        declared (ArtifactKind.serviceImplementation.content (Context.ofTable t c)) = [name] ∧
        declared (ArtifactKind.serviceInterface.content (Context.ofTable t c)) = [interface] ∧
        implements? (ofText (ArtifactKind.serviceImplementation.content (Context.ofTable t c))) =
          some (name.toList, interface.toList) := by
  obtain ⟨rfl, hpackage, -⟩ := Config.validate_eq_ok package path c hc
  obtain ⟨hused, mapped, hmapped, hserved⟩ := usesOf_mapper t ⟨package, path⟩ ht hpackage
  refine ⟨_, mapped, rfl, ?_, ?_, ?_, hmapped, hused, hserved, ?_⟩
  · exact declaredMethods_interface t ⟨package, path⟩ ht hpackage
  · exact overridingMethods_implementation t ⟨package, path⟩ ht hpackage
  · exact usesOf_service t ⟨package, path⟩ ht hpackage
  · have hclass := declared_content t ⟨package, path⟩ ht hpackage .serviceImplementation
    have hinterface := declared_content t ⟨package, path⟩ ht hpackage .serviceInterface
    exact ⟨_, _, hclass, hinterface, implements?_implementation t ⟨package, path⟩ ht hpackage⟩

theorem service_files_agree_item :
    (Entity.itemTable "order_id").checkNames = .ok () ∧
    Config.validate "com.example" ⟨"out"⟩ = .ok ⟨"com.example", ⟨"out"⟩⟩ ∧
    (usesOf (Context.ofTable (Entity.itemTable "order_id")
        ⟨"com.example", ⟨"out"⟩⟩).serviceVariable.toList
      (ofText (ArtifactKind.resourceHandler.content
        (Context.ofTable (Entity.itemTable "order_id") ⟨"com.example", ⟨"out"⟩⟩)))).map
          (fun u => (String.ofList u.method, u.arguments)) =
        [("save", some 1), ("update", some 1), ("partialUpdate", some 1), ("findAll", some 1),
          ("findOne", some 1), ("delete", some 1)] := by
  have hnames : (Entity.itemTable "order_id").checkNames = .ok () := by decide
  obtain ⟨methods, mapped, hmethods, -, -, hused, -⟩ := service_files_agree
    (Entity.itemTable "order_id") "com.example" ⟨"out"⟩ ⟨"com.example", ⟨"out"⟩⟩ hnames rfl
  refine ⟨hnames, rfl, ?_⟩
  rw [hused, hmethods]
  decide

end CrudLayer
