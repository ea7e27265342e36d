import CrudLayer.Artifact.Context
import CrudLayer.Artifact.Listing

namespace CrudLayer

open Listing

def Repository.listing (ctx : Context) : Listing :=
  file (ctx.package .repository) [
      ctx.qualifiedName .entity, "org.springframework.data.jpa.repository.JpaRepository",
      "org.springframework.stereotype.Repository"] <|
    documentation ["Spring Data JPA repository for the " ++ ctx.typeName .entity ++ " entity."] ++ [
      "@Repository",
      "public interface " ++ ctx.typeName .repository ++ " extends JpaRepository<" ++
        ctx.typeName .entity ++ ", Long> " ++ empty]

namespace Mapper

def methods (ctx : Context) : List Listing :=
  let entity := ctx.typeName .entity
  let dto := ctx.typeName .transferObject
  [[entity ++ " toEntity(" ++ dto ++ " dto);"],
    [dto ++ " toDto(" ++ entity ++ " entity);"],
    ["List<" ++ entity ++ "> toEntity(List<" ++ dto ++ "> dtoList);"],
    ["List<" ++ dto ++ "> toDto(List<" ++ entity ++ "> entityList);"],
    ["@Named(\"partialUpdate\")",
      "@BeanMapping(nullValuePropertyMappingStrategy = NullValuePropertyMappingStrategy.IGNORE)",
      "void partialUpdate(@MappingTarget " ++ entity ++ " entity, " ++ dto ++ " dto);"]]

def listing (ctx : Context) : Listing :=
  file (ctx.package .mapper) [
      ctx.qualifiedName .entity, ctx.qualifiedName .transferObject, "java.util.List",
      "org.mapstruct.BeanMapping", "org.mapstruct.Mapper", "org.mapstruct.MappingTarget",
      "org.mapstruct.Named", "org.mapstruct.NullValuePropertyMappingStrategy"] <|
    documentation ["Mapper for the entity " ++ link (ctx.typeName .entity) ++ " and its DTO " ++
      link (ctx.typeName .transferObject) ++ "."] ++
    ["@Mapper(componentModel = \"spring\")"] ++
    braced ("public interface " ++ ctx.typeName .mapper) (apart (methods ctx)) ""

end Mapper
end CrudLayer
