import Mathlib
import CrudLayer.Proofs.Verdicts

namespace CrudLayer

open Listing Token

namespace Resource

def declaration (ctx : Context) (k : ArtifactKind) (name : String) : List Token × List Char :=
  ([.word (ctx.typeName k).toList], name.toList)

def bodyParameter (ctx : Context) : List Token × List Char :=
  declaration ctx .transferObject ctx.dtoVariable

def pathParameter : List Token × List Char := (identityType, "id".toList)

def boundOnCreate (ctx : Context) : List (String × List Token × List Char) :=
  [("RequestBody", bodyParameter ctx)]

/-- The parameters of the methods that update, each with its note. -/
def boundOnUpdate (ctx : Context) : List (String × List Token × List Char) :=
  [("PathVariable", pathParameter), ("RequestBody", bodyParameter ctx)]

def fields (ctx : Context) : List (List Token × List Char) := [
  declaration ctx .serviceInterface ctx.serviceVariable,
  declaration ctx .repository ctx.repositoryVariable]

def guarded (ctx : Context) (verb : String) (parameters : List (String × List Token × List Char))
    (guards : List IdentityGuard) (o : ServiceOperation) : GuardedMethod where
  head := {
    result := [.word "ResponseEntity".toList, .mark '<',
      .word (ctx.typeName .transferObject).toList, .mark '>']
    name := (verb ++ ctx.typeName .entity).toList
    parameters := parameters.map (·.2) }
  bindings := parameters.map fun p => [p.1.toList]
  refusals := guards.map (IdentityGuard.refusal ctx)
  call := ⟨ctx.serviceVariable.toList, o.name.toList, some 1⟩

def created (ctx : Context) : GuardedMethod :=
  guarded ctx "create" (boundOnCreate ctx) IdentityGuard.onCreate .save

def updated (ctx : Context) (o : ServiceOperation) : GuardedMethod :=
  guarded ctx o.name (boundOnUpdate ctx) IdentityGuard.onUpdate o

/-- What the names in the conditions of a method may refer to. -/
def scope (ctx : Context) (fields : List (List Token × List Char)) (m : GuardedMethod) : Scope where
  parameters := m.head.parameters
  fields := fields
  transferObject := (ctx.typeName .transferObject).toList
  repository := (ctx.typeName .repository).toList

structure FormGuards : Prop where
  created : notedMethods "PostMapping".toList (quotedFormTokens .resourceHandler) =
    some [created (Context.form [])]
  updated : notedMethods "PutMapping".toList (quotedFormTokens .resourceHandler) =
    some [updated (Context.form []) .update]
  partiallyUpdated : notedMethods "PatchMapping".toList (quotedFormTokens .resourceHandler) =
    some [Resource.updated (Context.form []) .partialUpdate]
  fields : heldFields (quotedFormTokens .resourceHandler) = fields (Context.form [])
  notes : ((phrases (quotedFormTokens .resourceHandler)).all
    fun p => p.tokens.all isFixedNote) = true
  told : (phrases (quotedFormTokens .resourceHandler)).all Phrase.isTold = true

/-- The methods that create and update are read from the form of the resource. -/
theorem formGuards : FormGuards where
  created := by decide +kernel
  updated := by decide +kernel
  partiallyUpdated := by decide +kernel
  fields := by decide +kernel
  notes := by decide +kernel
  told := by decide +kernel

end Resource

namespace Filling

open Resource

variable (σ : Filling)

theorem toList_of_fill {s s' : String} (h : σ.fill s = s') :
    s.toList.flatMap σ.spelling = s'.toList := by
  rw [← σ.toList_fill, h]

theorem read_fill (g : IdentityGuard) :
    (g.read (Context.form [])).fill σ.spelling = g.read σ.context := by
  have hbody := σ.toList_of_fill (σ.fill_dtoVariable [])
  have hrepository := σ.toList_of_fill (σ.fill_repositoryVariable [])
  have hpath := σ.flatMap_spelling_ascii "id".toList (by decide)
  cases g <;> simp only [IdentityGuard.read, Condition.fill, hbody, hrepository, hpath]

/-- A refusal of the form is that of the file with the names filled in. -/
theorem refusal_fill (g : IdentityGuard) :
    (g.refusal (Context.form [])).fill σ.spelling = g.refusal σ.context := by
  have hmessage := σ.toList_of_fill (σ.fill_message [] g)
  have hkey := σ.toList_of_fill (σ.fill_key g)
  simp only [IdentityGuard.refusal, Refusal.fill, read_fill, IdentityGuard.told,
    flatMap_spelling_quoted, hmessage, hkey]

theorem fillTyped_declaration (k : ArtifactKind) (name name' : String) (h : σ.fill name = name') :
    fillTyped σ.spelling (declaration (Context.form []) k name) =
      declaration σ.context k name' := by
  simp only [fillTyped, declaration, List.map_cons, List.map_nil, Token.fill,
    σ.toList_of_fill (σ.fill_typeName [] k), σ.toList_of_fill h]

theorem fillTyped_pathParameter : fillTyped σ.spelling pathParameter = pathParameter := by
  have hfinal := σ.flatMap_spelling_ascii "final".toList (by decide)
  have hlong := σ.flatMap_spelling_ascii "Long".toList (by decide)
  have hid := σ.flatMap_spelling_ascii "id".toList (by decide)
  simp only [fillTyped, pathParameter, identityType, List.map_cons, List.map_nil, Token.fill,
    hfinal, hlong, hid]

theorem fillTyped_bodyParameter :
    fillTyped σ.spelling (bodyParameter (Context.form [])) = bodyParameter σ.context :=
  σ.fillTyped_declaration .transferObject _ _ (σ.fill_dtoVariable [])

theorem map_fillTyped_fields :
    (fields (Context.form [])).map (fillTyped σ.spelling) = fields σ.context := by
  simp only [fields, List.map_cons, List.map_nil,
    σ.fillTyped_declaration _ _ _ (σ.fill_serviceVariable []),
    σ.fillTyped_declaration _ _ _ (σ.fill_repositoryVariable [])]

/-- A guarded method of the form is that of the file with the names filled in. -/
theorem guarded_fill (verb : String) (hverb : IsFixed verb.toList)
    (parameters : List (String × List Token × List Char))
    (hnotes : ∀ p ∈ parameters, IsFixed p.1.toList) (guards : List IdentityGuard)
    (o : ServiceOperation) :
    (guarded (Context.form []) verb parameters guards o).fill σ.spelling =
      guarded σ.context verb (parameters.map fun p => (p.1, fillTyped σ.spelling p.2)) guards
        o := by
  have hresult := σ.flatMap_spelling_ascii "ResponseEntity".toList (by decide)
  have htype := σ.toList_of_fill (σ.fill_typeName [] .transferObject)
  have hname : σ.fill (verb ++ (Context.form []).typeName .entity) =
      verb ++ σ.context.typeName .entity := by
    rw [fill_append, fill_typeName, σ.fill_fixed verb String.ofList_toList.symm hverb]
  have hservice := σ.toList_of_fill (σ.fill_serviceVariable [])
  have hoperation := σ.flatMap_spelling_ascii _ o.isFixed_name
  have hbindings : (parameters.map fun p => [p.1.toList]).map (List.map (·.flatMap σ.spelling)) =
      parameters.map fun p => [p.1.toList] := by
    rw [List.map_map]
    apply List.map_congr_left
    intro p hp
    simp only [Function.comp_apply, List.map_singleton,
      σ.flatMap_spelling_ascii _ (hnotes p hp)]
  have hguards : (guards.map (IdentityGuard.refusal (Context.form []))).map
      (Refusal.fill σ.spelling) = guards.map (IdentityGuard.refusal σ.context) := by
    rw [List.map_map]
    exact List.map_congr_left fun g _ => σ.refusal_fill g
  simp only [guarded, GuardedMethod.fill, MethodHead.fill, MethodUse.fill, List.map_cons,
    List.map_nil, Token.fill, hresult, htype, σ.toList_of_fill hname, hservice, hoperation,
    hbindings, hguards, List.map_map]
  rfl

theorem created_fill : (created (Context.form [])).fill σ.spelling = created σ.context := by
  have hnotes : ∀ p ∈ boundOnCreate (Context.form []), IsFixed p.1.toList := by
    simp only [boundOnCreate, List.forall_mem_singleton]
    decide
  rw [created, σ.guarded_fill _ (by decide) _ hnotes, boundOnCreate, List.map_singleton,
    fillTyped_bodyParameter]
  rfl

theorem updated_fill (o : ServiceOperation) :
    (updated (Context.form []) o).fill σ.spelling = updated σ.context o := by
  have hnotes : ∀ p ∈ boundOnUpdate (Context.form []), IsFixed p.1.toList := by
    simp only [boundOnUpdate, List.forall_mem_cons]
    decide
  rw [updated, σ.guarded_fill _ o.isFixed_name _ hnotes, boundOnUpdate, List.map_cons,
    List.map_singleton, fillTyped_pathParameter, fillTyped_bodyParameter]
  rfl

end Filling

namespace Resource

section Accepted

variable (t : Table) (c : Config) (ht : t.checkNames = .ok ())
  (hc : Config.checkPackage c.basePackage = .ok ())

include ht hc

/-- The methods with a note in the file are those in the form, filled in. -/
theorem notedMethods_content (note : List Char) (ms : List GuardedMethod)
    (h : notedMethods note (quotedFormTokens .resourceHandler) = some ms) :
    notedMethods note
        (ofQuotedText (ArtifactKind.resourceHandler.content (Context.ofTable t c))) =
      some (ms.map (GuardedMethod.fill
        (Filling.mk (Context.ofTable t c) (Field.form .text)).spelling)) := by
  rw [ofQuotedText_content t c ht hc _ (by decide)]
  exact notedMethods_map _ _ _ _ formGuards.notes h

/-- The resource holds these fields, whatever the table. -/
theorem heldFields_content :
    heldFields (ofQuotedText (ArtifactKind.resourceHandler.content (Context.ofTable t c))) =
      fields (Context.ofTable t c) := by
  rw [ofQuotedText_content t c ht hc _ (by decide), heldFields_map _ _ formGuards.told,
    formGuards.fields]
  exact Filling.map_fillTyped_fields _

end Accepted

/-- The method is named after the entity, has these parameters with these notes, and calls an
operation of the service after refusals with these keys. Their conditions ask parameters of its own
for identities and the field that holds the repository for what is stored, and no two names among
these are the same. -/
structure IsGuarded (ctx : Context) (fields : List (List Token × List Char)) (m : GuardedMethod)
    (verb : String) (bound : List (String × List Token × List Char)) (o : ServiceOperation)
    (keys : List String) : Prop where
  name : m.head.name = (verb ++ ctx.entityName).toList
  parameters : m.head.parameters = bound.map (·.2)
  bindings : m.bindings = bound.map fun p => [p.1.toList]
  call : m.call = ⟨ctx.serviceVariable.toList, o.name.toList, some 1⟩
  service : declaration ctx .serviceInterface ctx.serviceVariable ∈ fields
  keys : m.refusals.map (·.key) = keys.map fun key => quoted key.toList
  inScope : ∀ g ∈ m.refusals, g.condition.InScope (scope ctx fields m)
  apart : ((m.head.parameters ++ fields).map (·.2)).Nodup

section Names

variable (ctx : Context)

theorem getLast?_name (name suffix : String) (h : suffix.toList ≠ []) :
    (name ++ suffix).toList.getLast? = suffix.toList.getLast? := by
  rw [String.toList_append, List.getLast?_append_of_ne_nil _ h]

/-- No two names are the same, for they differ in their last letters. -/
theorem nodup_names : ((pathParameter :: bodyParameter ctx :: fields ctx).map (·.2)).Nodup := by
  have hdto : ctx.dtoVariable.toList.getLast? = some 'O' := getLast?_name _ "DTO" (by decide)
  have hservice : ctx.serviceVariable.toList.getLast? = some 'e' :=
    getLast?_name _ "Service" (by decide)
  have hrepository : ctx.repositoryVariable.toList.getLast? = some 'y' :=
    getLast?_name _ "Repository" (by decide)
  have hid : "id".toList.getLast? = some 'd' := by decide
  apply List.Nodup.of_map List.getLast?
  simp only [pathParameter, bodyParameter, fields, declaration, List.map_cons, List.map_nil, hdto,
    hservice, hrepository, hid]
  decide

theorem append_typeName_entity (verb : String) :
    verb ++ ctx.typeName .entity = verb ++ ctx.entityName := by
  simp [Context.typeName, ArtifactKind.typeName, ArtifactKind.suffix]

/-- The guard of the create operation asks about a parameter of the method. -/
theorem inScope_onCreate :
    ∀ g ∈ IdentityGuard.onCreate, (g.read ctx).InScope (scope ctx (fields ctx) (created ctx)) := by
  simp [IdentityGuard.onCreate, IdentityGuard.read, Condition.InScope, scope, created, guarded,
    boundOnCreate, bodyParameter, declaration]

/-- The guards of the update operations ask about parameters of the method and a field. -/
theorem inScope_onUpdate (o : ServiceOperation) :
    ∀ g ∈ IdentityGuard.onUpdate,
      (g.read ctx).InScope (scope ctx (fields ctx) (updated ctx o)) := by
  simp [IdentityGuard.onUpdate, IdentityGuard.read, Condition.InScope, scope, updated, guarded,
    boundOnUpdate, bodyParameter, pathParameter, declaration, fields]

/-- The create operation is guarded by `idexists`. -/
theorem isGuarded_created :
    IsGuarded ctx (fields ctx) (created ctx) "create" (boundOnCreate ctx) .save ["idexists"] where
  name := congrArg String.toList (append_typeName_entity ctx "create")
  parameters := rfl
  bindings := rfl
  call := rfl
  service := by simp [fields]
  keys := rfl
  inScope := List.forall_mem_map.mpr (inScope_onCreate ctx)
  apart := (List.nodup_cons.mp (nodup_names ctx)).2

/-- Both update operations are guarded by the same three keys in one order. -/
theorem isGuarded_updated (o : ServiceOperation) :
    IsGuarded ctx (fields ctx) (updated ctx o) o.name (boundOnUpdate ctx) o
      ["idnull", "idinvalid", "idnotfound"] where
  name := congrArg String.toList (append_typeName_entity ctx o.name)
  parameters := rfl
  bindings := rfl
  call := rfl
  service := by simp [fields]
  keys := rfl
  inScope := List.forall_mem_map.mpr (inScope_onUpdate ctx o)
  apart := nodup_names ctx

end Names

/-- The methods that create, update and update partially are read from the file of the resource.
Each makes just these refusals, in this order, before it calls the service. What is to be created is
refused exactly if it has an identity. What is to be updated is refused if it has no identity, else
if it has another one than the route, else if nothing is stored under it. The repository is never
asked about no identity. -/
theorem guards_identities (t : Table) (package : String) (path : Path) (c : Config)
    (ht : t.checkNames = .ok ()) (hc : Config.validate package path = .ok c) :
    ∃ (ctx : Context) (ts : List Token) (create update partialUpdate : GuardedMethod),
      ctx = Context.ofTable t c ∧
      ts = ofQuotedText (ArtifactKind.resourceHandler.content ctx) ∧
      notedMethods "PostMapping".toList ts = some [create] ∧
      notedMethods "PutMapping".toList ts = some [update] ∧
      notedMethods "PatchMapping".toList ts = some [partialUpdate] ∧
      IsGuarded ctx (heldFields ts) create "create" (boundOnCreate ctx) .save ["idexists"] ∧
      IsGuarded ctx (heldFields ts) update "update" (boundOnUpdate ctx) .update
        ["idnull", "idinvalid", "idnotfound"] ∧
      IsGuarded ctx (heldFields ts) partialUpdate "partialUpdate" (boundOnUpdate ctx)
        .partialUpdate ["idnull", "idinvalid", "idnotfound"] ∧
      GuardsCreation (fun r => judge (scope ctx (heldFields ts) create) r create.refusals) ∧
      GuardsUpdate (fun r => judge (scope ctx (heldFields ts) update) r update.refusals) ∧
      GuardsUpdate
        (fun r => judge (scope ctx (heldFields ts) partialUpdate) r partialUpdate.refusals) := by
  obtain ⟨rfl, hpackage, -⟩ := Config.validate_eq_ok package path c hc
  have hcreated := notedMethods_content t ⟨package, path⟩ ht hpackage _ _ formGuards.created
  have hupdated := notedMethods_content t ⟨package, path⟩ ht hpackage _ _ formGuards.updated
  have hpartially :=
    notedMethods_content t ⟨package, path⟩ ht hpackage _ _ formGuards.partiallyUpdated
  rw [List.map_singleton, Filling.created_fill] at hcreated
  rw [List.map_singleton, Filling.updated_fill] at hupdated hpartially
  refine ⟨_, _, _, _, _, rfl, rfl, hcreated, hupdated, hpartially, ?_⟩
  rw [heldFields_content t ⟨package, path⟩ ht hpackage]
  refine ⟨isGuarded_created _, isGuarded_updated _ .update, isGuarded_updated _ .partialUpdate,
    ?_, ?_, ?_⟩
  · exact IdentityGuard.guardsCreation (inScope_onCreate _)
  · exact IdentityGuard.guardsUpdate (inScope_onUpdate _ .update)
  · exact IdentityGuard.guardsUpdate (inScope_onUpdate _ .partialUpdate)

theorem guards_identities_item :
    (Entity.itemTable "order_id").checkNames = .ok () ∧
    Config.validate "com.example" ⟨"out"⟩ = .ok ⟨"com.example", ⟨"out"⟩⟩ ∧
    ∃ (ctx : Context) (ts : List Token) (update : GuardedMethod),
      ctx = Context.ofTable (Entity.itemTable "order_id") ⟨"com.example", ⟨"out"⟩⟩ ∧
      ts = ofQuotedText (ArtifactKind.resourceHandler.content ctx) ∧
      notedMethods "PutMapping".toList ts = some [update] ∧
      String.ofList update.head.name = "updateItem" ∧
      judge (scope ctx (heldFields ts) update) ⟨none, some 5, fun _ => true⟩ update.refusals =
        .ok (.refused (quoted "idinvalid".toList)) ∧
      judge (scope ctx (heldFields ts) update) ⟨some 5, some 5, fun _ => false⟩ update.refusals =
        .ok (.refused (quoted "idnotfound".toList)) := by
  have hnames : (Entity.itemTable "order_id").checkNames = .ok () := by decide
  obtain ⟨ctx, ts, create, update, partialUpdate, hctx, hts, -, hput, -, -, hguarded, -, -, hjudged,
      -⟩ :=
    guards_identities (Entity.itemTable "order_id") "com.example" ⟨"out"⟩
      ⟨"com.example", ⟨"out"⟩⟩ hnames rfl
  refine ⟨hnames, rfl, ctx, ts, update, hctx, hts, hput, ?_, ?_, ?_⟩
  · have hentity : ctx.entityName = "Item" := by
      rw [hctx]
      decide
    rw [hguarded.name, hentity]
    decide
  · exact (hjudged.idinvalid ⟨none, some 5, fun _ => true⟩).mpr ⟨by simp, by simp⟩
  · exact (hjudged.idnotfound ⟨some 5, some 5, fun _ => false⟩).mpr ⟨5, rfl, rfl, rfl⟩

end Resource
end CrudLayer
