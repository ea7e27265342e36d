import CrudLayer.Artifact.Context
import CrudLayer.Artifact.Listing

namespace CrudLayer.Members

open Listing

def declaration (type name : String) : String := "private " ++ type ++ " " ++ name ++ ";"

def getter (type name accessor : String) : Listing :=
  braced ("public " ++ type ++ " get" ++ accessor ++ "()") ["return " ++ name ++ ";"] ""

def setter (type name accessor : String) : Listing :=
  braced ("public void set" ++ accessor ++ "(" ++ type ++ " " ++ name ++ ")")
    ["this." ++ name ++ " = " ++ name ++ ";"] ""

def accessors (f : Field) : List Listing := [
  getter f.type.javaType f.name f.accessor,
  setter f.type.javaType f.name f.accessor]

def identity : String := declaration "Long" identityColumn

def allAccessors (ctx : Context) : List Listing :=
  [getter "Long" identityColumn "Id", setter "Long" identityColumn "Id"] ++
    ctx.fields.flatMap accessors

def serialVersion : Listing := ["private static final long serialVersionUID = 1L;"]

end CrudLayer.Members
