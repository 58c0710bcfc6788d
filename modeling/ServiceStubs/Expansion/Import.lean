/-!
# Imports of generated code

Generated code refers to a few modules under aliases of its own. Every fragment says which of them
it needs; the import lines always come in one order, whatever the order of the requests.
-/

namespace ServiceStubs

namespace Expansion

/-- A module that generated code refers to. -/
inductive Import
  | abc | copy | typing | grpc | codec | runtime
  deriving DecidableEq, Repr

namespace Import

/-- All of them, in the order of their import lines. -/
def all : List Import := [abc, copy, typing, grpc, codec, runtime]

/-- The name under which generated code imports it. -/
def shortName : Import → String
  | abc => "_abc"
  | copy => "_copy"
  | typing => "_typing"
  | grpc => "_grpc"
  | codec => "_grpc_codec"
  | runtime => "_grpc_runtime"

/-- The line that imports it under that name. -/
def line : Import → String
  | abc => "import abc as _abc"
  | copy => "import copy as _copy"
  | typing => "import typing as _typing"
  | grpc => "import grpc as _grpc"
  | codec => "from grpc_stub_generator import codec as _grpc_codec"
  | runtime => "from grpc_stub_generator import runtime as _grpc_runtime"

/-- The import lines for the requested modules. -/
def lines (requested : List Import) : List String :=
  (all.filter requested.contains).map line

theorem mem_all (i : Import) : i ∈ all := by cases i <;> simp [all]

end Import

end Expansion

end ServiceStubs
