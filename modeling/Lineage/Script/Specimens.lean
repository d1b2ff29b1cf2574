import Lineage.World

/-!
# Specimens — standard things known by name

One example of each sort of thing that type questions are asked about: classes, routines, objects that can and cannot be
called, and the collections that are not among the plain data.
-/

set_option autoImplicit false

namespace Lineage.Script

/-- A class. -/
def classSpecimen (name className : String) : Specimen := ⟨name, className, .cls, true, true, false⟩

/-- A routine. -/
def routine (name className : String) (callable : Bool) : Specimen := ⟨name, className, .function, callable, true, false⟩

/-- An object. -/
def objectSpecimen (name className : String) (callable hashable : Bool) : Specimen :=
  ⟨name, className, .object, callable, hashable, false⟩

/-- A collection. -/
def collection (name className : String) (hashable isMapping : Bool) : Specimen :=
  ⟨name, className, .table, false, hashable, isMapping⟩

/-- The specimens. -/
def specimens : List Specimen :=
  [classSpecimen "int" "type", classSpecimen "type" "type", classSpecimen "object_class" "type",
    classSpecimen "exception_class" "type", classSpecimen "ClassDescriptor" "type",
    classSpecimen "FrozenEnum" "ABCMeta",
    routine "len" "builtin_function_or_method" true, routine "lambda" "function" true,
    routine "bound_method" "method" true, routine "builtin_method" "builtin_function_or_method" true,
    routine "unbound_slot" "wrapper_descriptor" true, routine "classmethod_object" "classmethod" false,
    routine "staticmethod_object" "staticmethod" true, routine "lru_cache_wrapper" "_lru_cache_wrapper" true,
    objectSpecimen "partial" "partial" true true, objectSpecimen "callable_instance" "_Callable" true true,
    objectSpecimen "object" "object" false true, objectSpecimen "property" "property" false true,
    objectSpecimen "module" "module" false true, objectSpecimen "generator" "generator" false true,
    objectSpecimen "iterator" "list_iterator" false true, objectSpecimen "ellipsis" "ellipsis" false true,
    objectSpecimen "not_implemented" "NotImplementedType" false true, objectSpecimen "slice" "slice" false false,
    objectSpecimen "date" "date" false true, objectSpecimen "dict_values" "dict_values" false true,
    objectSpecimen "exception" "ValueError" false true,
    collection "range" "range" true false, collection "deque" "deque" false false,
    collection "user_string" "UserString" true false, collection "dict_keys" "dict_keys" false false,
    collection "dict_items" "dict_items" false false, collection "mappingproxy" "mappingproxy" false true,
    collection "ordered_dict" "OrderedDict" false true, collection "counter" "Counter" false true,
    collection "chain_map" "ChainMap" false true, collection "user_dict" "UserDict" false true]

/-- The value with a name: the base class, a text, a number and a tuple stand under names too. -/
def specimen? (name : String) : Option Value :=
  if name = "Object" then some (.cls baseIndex)
  else if name = "str_subclass" then some (.ofString "red")
  else if name = "int_subclass" then some (.ofInt 1)
  else if name = "named_tuple" then some (.tuple [.ofInt 1, .ofInt 2])
  else (specimens.find? (·.name = name)).map Value.specimen

end Lineage.Script
