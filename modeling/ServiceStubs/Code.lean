/-!
# Pieces of generated code

Generated code is a list of lines. This module holds the small pieces that all generated code is
made of: lists of parameters, groups, signatures, decorators and class headers.

Empty parameters are left out of every list.
-/

namespace ServiceStubs

namespace Code

/-- One step of indentation. -/
def indentation : String := "    "

/-- The parameters that are not empty, with commas between them. -/
def commaSeparated (parameters : List String) : String :=
  String.intercalate ", " (parameters.filter (!·.isEmpty))

/-- A generic type with its arguments. -/
def group (name : String) (members : List String) : String :=
  name ++ "[" ++ commaSeparated members ++ "]"

/-- The type of tuples with the given member types. -/
def tupleType (members : List String) : String :=
  if members.isEmpty then "tuple[()]" else group "tuple" members

/-- The assignment target that takes a tuple apart into the given names. -/
def tupleTarget (names : List String) : String :=
  match names with
  | [name] => "(" ++ name ++ ",)"
  | _ => "(" ++ commaSeparated names ++ ")"

/-- The lines that are not empty, with indentation in front. -/
def indent (ls : List String) (indentation : String := Code.indentation) : List String :=
  ls.map fun line => if line.isEmpty then line else indentation ++ line

/-- A function. Without a body it is one line that ends in an ellipsis. -/
def function (name : String) (parameters : List String) (returns : Option String)
    (body : List String) : List String :=
  let signature :=
    "def " ++ name ++ "(" ++ commaSeparated parameters ++ ") -> " ++ returns.getD "None" ++ ":"
  if body.isEmpty then [signature ++ " ..."] else signature :: indent body

/-- A decorator, with parentheses only around arguments. -/
def decorator (name : String) (parameters : List String) : String :=
  if parameters.isEmpty then "@" ++ name
  else "@" ++ name ++ "(" ++ commaSeparated parameters ++ ")"

/-- The header of a class, with parentheses only around bases. -/
def classHeader (name : String) (parameters : List String) : String :=
  if parameters.isEmpty then "class " ++ name ++ ":"
  else "class " ++ name ++ "(" ++ commaSeparated parameters ++ "):"

@[simp] theorem length_indent (ls : List String) (by_ : String) :
    (indent ls by_).length = ls.length := by
  simp [indent]

end Code

end ServiceStubs
