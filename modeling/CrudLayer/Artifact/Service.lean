import CrudLayer.Artifact.Context
import CrudLayer.Artifact.Listing

namespace CrudLayer

structure Signature where
  result : String
  name : String
  /-- The type and the name of each parameter. -/
  parameters : List (String × String)
  deriving DecidableEq, Repr

def Signature.text (s : Signature) : String :=
  s.result ++ " " ++ s.name ++ "(" ++
    ", ".intercalate (s.parameters.map fun p => p.1 ++ " " ++ p.2) ++ ")"

inductive ServiceOperation
  | save
  | update
  | partialUpdate
  | findAll
  | findOne
  | delete
  deriving DecidableEq, Repr

namespace ServiceOperation

open Listing

def all : List ServiceOperation := [save, update, partialUpdate, findAll, findOne, delete]

def name : ServiceOperation → String
  | save => "save"
  | update => "update"
  | partialUpdate => "partialUpdate"
  | findAll => "findAll"
  | findOne => "findOne"
  | delete => "delete"

def result (ctx : Context) : ServiceOperation → String
  | save | update => ctx.typeName .transferObject
  | partialUpdate | findOne => "Optional<" ++ ctx.typeName .transferObject ++ ">"
  | findAll => "Page<" ++ ctx.typeName .transferObject ++ ">"
  | delete => "void"

def parameters (ctx : Context) : ServiceOperation → List (String × String)
  | save | update | partialUpdate => [(ctx.typeName .transferObject, ctx.dtoVariable)]
  | findAll => [("Pageable", "pageable")]
  | findOne | delete => [("Long", "id")]

def signature (ctx : Context) (o : ServiceOperation) : Signature :=
  ⟨o.result ctx, o.name, o.parameters ctx⟩

def description (ctx : Context) : ServiceOperation → Listing
  | save => [
    "Save a " ++ ctx.entityVariable ++ ".",
    "",
    "@param " ++ ctx.dtoVariable ++ " the entity to save.",
    "@return the persisted entity."]
  | update => [
    "Updates a " ++ ctx.entityVariable ++ ".",
    "",
    "@param " ++ ctx.dtoVariable ++ " the entity to update.",
    "@return the persisted entity."]
  | partialUpdate => [
    "Partially updates a " ++ ctx.entityVariable ++ ", ignoring null fields of the input.",
    "",
    "@param " ++ ctx.dtoVariable ++ " the entity to update partially.",
    "@return the persisted entity, or empty if no entity has the given id."]
  | findAll => [
    "Get all the " ++ ctx.entityVariable ++ "s.",
    "",
    "@param pageable the pagination information.",
    "@return the list of entities."]
  | findOne => [
    "Get the \"id\" " ++ ctx.entityVariable ++ ".",
    "",
    "@param id the id of the entity.",
    "@return the entity."]
  | delete => [
    "Delete the \"id\" " ++ ctx.entityVariable ++ ".",
    "",
    "@param id the id of the entity."]

def annotations : ServiceOperation → Listing
  | findAll | findOne => ["@Override", "@Transactional(readOnly = true)"]
  | _ => ["@Override"]

def logged (request : String) (arguments : List String) : String :=
  "LOG.debug(" ++ ", ".intercalate (("\"Request to " ++ request ++ "\"") :: arguments) ++ ");"

def stored (ctx : Context) : Listing := [
  ctx.typeName .entity ++ " " ++ ctx.entityVariable ++ " = " ++
    ctx.mapperVariable ++ ".toEntity(" ++ ctx.dtoVariable ++ ");",
  ctx.entityVariable ++ " = " ++ ctx.repositoryVariable ++ ".save(" ++ ctx.entityVariable ++ ");",
  "return " ++ ctx.mapperVariable ++ ".toDto(" ++ ctx.entityVariable ++ ");"]

def implementation (ctx : Context) : ServiceOperation → Listing
  | save =>
    [logged ("save " ++ ctx.typeName .entity ++ " : " ++ empty) [ctx.dtoVariable]] ++ stored ctx
  | update =>
    [logged ("update " ++ ctx.typeName .entity ++ " : " ++ empty) [ctx.dtoVariable]] ++ stored ctx
  | partialUpdate =>
    [logged ("partially update " ++ ctx.typeName .entity ++ " : " ++ empty) [ctx.dtoVariable]] ++
    continued ("return " ++ ctx.repositoryVariable)
      ([".findById(" ++ ctx.dtoVariable ++ ".getId())"] ++
      braced (".map(existing" ++ ctx.typeName .entity ++ " ->") [
        ctx.mapperVariable ++ ".partialUpdate(existing" ++ ctx.typeName .entity ++ ", " ++
          ctx.dtoVariable ++ ");",
        "return existing" ++ ctx.typeName .entity ++ ";"] ")" ++
      [".map(" ++ ctx.repositoryVariable ++ "::save)",
        ".map(" ++ ctx.mapperVariable ++ "::toDto);"])
  | findAll => [
    logged ("get all " ++ ctx.typeName .entity ++ "s") [],
    "return " ++ ctx.repositoryVariable ++ ".findAll(pageable).map(" ++ ctx.mapperVariable ++
      "::toDto);"]
  | findOne => [
    logged ("get " ++ ctx.typeName .entity ++ " : " ++ empty) ["id"],
    "return " ++ ctx.repositoryVariable ++ ".findById(id).map(" ++ ctx.mapperVariable ++
      "::toDto);"]
  | delete => [
    logged ("delete " ++ ctx.typeName .entity ++ " : " ++ empty) ["id"],
    ctx.repositoryVariable ++ ".deleteById(id);"]

end ServiceOperation

namespace Service

open Listing

def interfaceListing (ctx : Context) : Listing :=
  file (ctx.package .serviceInterface) [
      ctx.qualifiedName .transferObject, "java.util.Optional",
      "org.springframework.data.domain.Page", "org.springframework.data.domain.Pageable"] <|
    documentation ["Service Interface for managing " ++ link (ctx.qualifiedName .entity) ++ "."] ++
    braced ("public interface " ++ ctx.typeName .serviceInterface)
      (apart (ServiceOperation.all.map fun o =>
        documentation (o.description ctx) ++ [(o.signature ctx).text ++ ";"])) ""

def constructor (ctx : Context) : Listing :=
  braced ("public " ++ ctx.typeName .serviceImplementation ++ "(" ++
      ctx.typeName .repository ++ " " ++ ctx.repositoryVariable ++ ", " ++
      ctx.typeName .mapper ++ " " ++ ctx.mapperVariable ++ ")") [
    "this." ++ ctx.repositoryVariable ++ " = " ++ ctx.repositoryVariable ++ ";",
    "this." ++ ctx.mapperVariable ++ " = " ++ ctx.mapperVariable ++ ";"] ""

def method (ctx : Context) (o : ServiceOperation) : Listing :=
  o.annotations ++ braced ("public " ++ (o.signature ctx).text) (o.implementation ctx) ""

def implementationListing (ctx : Context) : Listing :=
  file (ctx.package .serviceImplementation) [
      ctx.qualifiedName .entity, ctx.qualifiedName .mapper, ctx.qualifiedName .repository,
      ctx.qualifiedName .serviceInterface, ctx.qualifiedName .transferObject, "java.util.Optional",
      "org.slf4j.Logger", "org.slf4j.LoggerFactory", "org.springframework.data.domain.Page",
      "org.springframework.data.domain.Pageable", "org.springframework.stereotype.Service",
      "org.springframework.transaction.annotation.Transactional"] <|
    documentation
      ["Service Implementation for managing " ++ link (ctx.qualifiedName .entity) ++ "."] ++
    ["@Service", "@Transactional"] ++
    braced ("public class " ++ ctx.typeName .serviceImplementation ++ " implements " ++
        ctx.typeName .serviceInterface)
      ([""] ++ apart ([
        ["private static final Logger LOG = LoggerFactory.getLogger(" ++
          ctx.typeName .serviceImplementation ++ ".class);"],
        ["private final " ++ ctx.typeName .repository ++ " " ++ ctx.repositoryVariable ++ ";"],
        ["private final " ++ ctx.typeName .mapper ++ " " ++ ctx.mapperVariable ++ ";"],
        constructor ctx] ++ ServiceOperation.all.map (method ctx))) ""

end Service
end CrudLayer
