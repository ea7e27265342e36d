import CrudLayer.Artifact.Guard
import CrudLayer.Artifact.Listing

namespace CrudLayer.Resource

open Listing

def refusal (ctx : Context) (g : IdentityGuard) : Listing :=
  braced ("if (" ++ g.condition ctx ++ ")")
    ["throw new BadRequestAlertException(\"" ++ g.message ctx ++ "\", ENTITY_NAME, \"" ++ g.key ++
      "\");"] ""

def refusals (ctx : Context) (guards : List IdentityGuard) : Listing :=
  guards.flatMap (refusal ctx)

def logged (request : String) (arguments : List String) : String :=
  "LOG.debug(" ++ ", ".intercalate (("\"REST request to " ++ request ++ "\"") :: arguments) ++ ");"

def dtoResponse (ctx : Context) : String := "ResponseEntity<" ++ ctx.typeName .transferObject ++ ">"

def dtoParameter (ctx : Context) : String :=
  "@RequestBody " ++ ctx.typeName .transferObject ++ " " ++ ctx.dtoVariable

def updateParameters (ctx : Context) : Listing := [
  "@PathVariable(value = \"id\", required = false) final Long id,",
  dtoParameter ctx]

/-- A header that tells the client what was done to which entity. -/
def alert (action identity : String) : String :=
  "HeaderUtil.createEntity" ++ action ++ "Alert(applicationName, false, ENTITY_NAME, " ++
    identity ++ ".toString())"

def dtoIdentity (ctx : Context) : String := ctx.dtoVariable ++ ".getId()"

/-- The lines of documentation that the two update methods share. -/
def updateDocumentation (ctx : Context) : Listing := [
  "@param id the id of the " ++ ctx.dtoVariable ++ " to save.",
  "@param " ++ ctx.dtoVariable ++ " the " ++ ctx.dtoVariable ++ " to update.",
  "@return the " ++ link "ResponseEntity" ++ " with status " ++ code "200 (OK)" ++
    " and with body the updated " ++ ctx.dtoVariable ++ ",",
  "or with status " ++ code "400 (Bad Request)" ++ " if the " ++ ctx.dtoVariable ++
    " is not valid,"]

def failureDocumentation (ctx : Context) : String :=
  "or with status " ++ code "500 (Internal Server Error)" ++ " if the " ++ ctx.dtoVariable ++
    " couldn't be updated."

def create (ctx : Context) : Listing :=
  documentation [
    code ("POST  " ++ ctx.apiPath) ++ " : Create a new " ++ ctx.entityVariable ++ ".",
    "",
    "@param " ++ ctx.dtoVariable ++ " the " ++ ctx.dtoVariable ++ " to create.",
    "@return the " ++ link "ResponseEntity" ++ " with status " ++ code "201 (Created)" ++
      " and with body the new " ++ ctx.dtoVariable ++ ",",
    "or with status " ++ code "400 (Bad Request)" ++ " if the " ++ ctx.entityVariable ++
      " has already an ID.",
    "@throws URISyntaxException if the Location URI syntax is incorrect."] ++
  ["@PostMapping(\"\")"] ++
  braced ("public " ++ dtoResponse ctx ++ " create" ++ ctx.typeName .entity ++ "(" ++
      dtoParameter ctx ++ ") throws URISyntaxException")
    ([logged ("save " ++ ctx.typeName .entity ++ " : " ++ empty) [ctx.dtoVariable]] ++
    refusals ctx IdentityGuard.onCreate ++
    [ctx.dtoVariable ++ " = " ++ ctx.serviceVariable ++ ".save(" ++ ctx.dtoVariable ++ ");"] ++
    continued ("return ResponseEntity.created(new URI(\"" ++ ctx.apiPath ++ "/\" + " ++
        dtoIdentity ctx ++ "))") [
      ".headers(" ++ alert "Creation" (dtoIdentity ctx) ++ ")",
      ".body(" ++ ctx.dtoVariable ++ ");"]) ""

def update (ctx : Context) : Listing :=
  documentation ([
    code ("PUT  " ++ ctx.apiPath ++ "/:id") ++ " : Updates an existing " ++ ctx.entityVariable ++
      ".",
    ""] ++ updateDocumentation ctx ++ [failureDocumentation ctx]) ++
  ["@PutMapping(\"/\x7bid\x7d\")"] ++
  parenthesized ("public " ++ dtoResponse ctx ++ " update" ++ ctx.typeName .entity)
    (updateParameters ctx)
    ([logged ("update " ++ ctx.typeName .entity ++ " : " ++ empty ++ ", " ++ empty)
      ["id", ctx.dtoVariable]] ++
    refusals ctx IdentityGuard.onUpdate ++
    ["",
      ctx.dtoVariable ++ " = " ++ ctx.serviceVariable ++ ".update(" ++ ctx.dtoVariable ++ ");"] ++
    continued "return ResponseEntity.ok()" [
      ".headers(" ++ alert "Update" (dtoIdentity ctx) ++ ")",
      ".body(" ++ ctx.dtoVariable ++ ");"])

def partialUpdate (ctx : Context) : Listing :=
  documentation ([
    code ("PATCH  " ++ ctx.apiPath ++ "/:id") ++
      " : Partial updates given fields of an existing " ++ ctx.entityVariable ++
      ", field will ignore if it is null",
    ""] ++ updateDocumentation ctx ++ [
    "or with status " ++ code "404 (Not Found)" ++ " if the " ++ ctx.dtoVariable ++
      " is not found,",
    failureDocumentation ctx]) ++
  ["@PatchMapping(value = \"/\x7bid\x7d\", consumes = \x7b \"application/json\", " ++
    "\"application/merge-patch+json\" \x7d)"] ++
  parenthesized ("public " ++ dtoResponse ctx ++ " partialUpdate" ++ ctx.typeName .entity)
    (updateParameters ctx)
    ([logged
        ("partial update " ++ ctx.typeName .entity ++ " partially : " ++ empty ++ ", " ++ empty)
        ["id", ctx.dtoVariable]] ++
    refusals ctx IdentityGuard.onUpdate ++
    ["",
      "Optional<" ++ ctx.typeName .transferObject ++ "> result = " ++ ctx.serviceVariable ++
        ".partialUpdate(" ++ ctx.dtoVariable ++ ");",
      ""] ++
    ["return ResponseUtil.wrapOrNotFound("] ++
    indented ["result,", alert "Update" (dtoIdentity ctx)] ++
    [");"])

def getAll (ctx : Context) : Listing :=
  documentation [
    code ("GET  " ++ ctx.apiPath) ++ " : get all the " ++ ctx.entityVariable ++ "s.",
    "",
    "@param pageable the pagination information.",
    "@return the " ++ link "ResponseEntity" ++ " with status " ++ code "200 (OK)" ++
      " and the list of " ++ ctx.entityVariable ++ "s in body."] ++
  ["@GetMapping(\"\")"] ++
  braced ("public ResponseEntity<List<" ++ ctx.typeName .transferObject ++ ">> getAll" ++
      ctx.typeName .entity ++ "s(Pageable pageable)") [
    logged ("get a page of " ++ ctx.typeName .entity ++ "s") [],
    "Page<" ++ ctx.typeName .transferObject ++ "> page = " ++ ctx.serviceVariable ++
      ".findAll(pageable);",
    "HttpHeaders headers = PaginationUtil.generatePaginationHttpHeaders(" ++
      "ServletUriComponentsBuilder.fromCurrentRequest(), page);",
    "return ResponseEntity.ok().headers(headers).body(page.getContent());"] ""

def getOne (ctx : Context) : Listing :=
  documentation [
    code ("GET  " ++ ctx.apiPath ++ "/:id") ++ " : get the \"id\" " ++ ctx.entityVariable ++ ".",
    "",
    "@param id the id of the " ++ ctx.dtoVariable ++ " to retrieve.",
    "@return the " ++ link "ResponseEntity" ++ " with status " ++ code "200 (OK)" ++
      " and with body the " ++ ctx.dtoVariable ++ ", or with status " ++ code "404 (Not Found)" ++
      "."] ++
  ["@GetMapping(\"/\x7bid\x7d\")"] ++
  braced ("public " ++ dtoResponse ctx ++ " get" ++ ctx.typeName .entity ++
      "(@PathVariable(\"id\") Long id)") [
    logged ("get " ++ ctx.typeName .entity ++ " : " ++ empty) ["id"],
    "Optional<" ++ ctx.typeName .transferObject ++ "> " ++ ctx.dtoVariable ++ " = " ++
      ctx.serviceVariable ++ ".findOne(id);",
    "return ResponseUtil.wrapOrNotFound(" ++ ctx.dtoVariable ++ ");"] ""

def delete (ctx : Context) : Listing :=
  documentation [
    code ("DELETE  " ++ ctx.apiPath ++ "/:id") ++ " : delete the \"id\" " ++ ctx.entityVariable ++
      ".",
    "",
    "@param id the id of the " ++ ctx.dtoVariable ++ " to delete.",
    "@return the " ++ link "ResponseEntity" ++ " with status " ++ code "204 (NO_CONTENT)" ++ "."] ++
  ["@DeleteMapping(\"/\x7bid\x7d\")"] ++
  braced ("public ResponseEntity<Void> delete" ++ ctx.typeName .entity ++
      "(@PathVariable(\"id\") Long id)")
    ([logged ("delete " ++ ctx.typeName .entity ++ " : " ++ empty) ["id"],
      ctx.serviceVariable ++ ".delete(id);"] ++
    continued "return ResponseEntity.noContent()" [
      ".headers(" ++ alert "Deletion" "id" ++ ")",
      ".build();"]) ""

def constructor (ctx : Context) : Listing :=
  braced ("public " ++ ctx.typeName .resourceHandler ++ "(" ++
      ctx.typeName .serviceInterface ++ " " ++ ctx.serviceVariable ++ ", " ++
      ctx.typeName .repository ++ " " ++ ctx.repositoryVariable ++ ")") [
    "this." ++ ctx.serviceVariable ++ " = " ++ ctx.serviceVariable ++ ";",
    "this." ++ ctx.repositoryVariable ++ " = " ++ ctx.repositoryVariable ++ ";"] ""

/-- The imports. The exception for refused requests is one that the host project provides. -/
def imports (ctx : Context) : List String := [
  ctx.qualifiedName .repository, ctx.qualifiedName .serviceInterface,
  ctx.qualifiedName .transferObject,
  ctx.basePackage ++ ".web.rest.errors.BadRequestAlertException",
  "java.net.URI", "java.net.URISyntaxException", "java.util.List", "java.util.Objects",
  "java.util.Optional", "org.slf4j.Logger", "org.slf4j.LoggerFactory",
  "org.springframework.beans.factory.annotation.Value", "org.springframework.data.domain.Page",
  "org.springframework.data.domain.Pageable", "org.springframework.http.HttpHeaders",
  "org.springframework.http.ResponseEntity", "org.springframework.web.bind.annotation.*",
  "org.springframework.web.servlet.support.ServletUriComponentsBuilder",
  "tech.jhipster.web.util.HeaderUtil", "tech.jhipster.web.util.PaginationUtil",
  "tech.jhipster.web.util.ResponseUtil"]

def listing (ctx : Context) : Listing :=
  file (ctx.package .resourceHandler) (imports ctx) <|
    documentation ["REST controller for managing " ++ link (ctx.qualifiedName .entity) ++ "."] ++
    ["@RestController", "@RequestMapping(\"" ++ ctx.apiPath ++ "\")"] ++
    braced ("public class " ++ ctx.typeName .resourceHandler)
      ([""] ++ apart [
        ["private static final Logger LOG = LoggerFactory.getLogger(" ++
          ctx.typeName .resourceHandler ++ ".class);"],
        ["private static final String ENTITY_NAME = \"" ++ ctx.entityVariable ++ "\";"],
        ["@Value(\"$\x7bjhipster.clientApp.name\x7d\")", "private String applicationName;"],
        ["private final " ++ ctx.typeName .serviceInterface ++ " " ++ ctx.serviceVariable ++ ";"],
        ["private final " ++ ctx.typeName .repository ++ " " ++ ctx.repositoryVariable ++ ";"],
        constructor ctx, create ctx, update ctx, partialUpdate ctx, getAll ctx, getOne ctx,
        delete ctx]) ""

end CrudLayer.Resource
