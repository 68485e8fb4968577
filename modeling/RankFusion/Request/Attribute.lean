import RankFusion.Value.Operand

/-!
This module contains the attributes of a request that are no fields. Names with an underscore in
front are free for private data, except those that the request keeps for itself.
-/

namespace RankFusion.QueryRequest

def kindName : String := "HybridQueryParams"

def sharedAttributes : List String := [
  "__class_vars__", "__private_attributes__", "__signature__", "__pydantic_complete__",
  "__pydantic_core_schema__", "__pydantic_custom_init__", "__pydantic_decorators__",
  "__pydantic_generic_metadata__", "__pydantic_parent_namespace__", "__pydantic_post_init__",
  "__pydantic_root_model__", "__pydantic_serializer__", "__pydantic_validator__",
  "__pydantic_fields__", "__pydantic_setattr_handlers__", "__pydantic_computed_fields__"]

def computedAttributes : List String := ["model_extra", "model_fields_set", "__fields_set__"]

def isPrivate (name : String) : Bool := name.toList.head? == some '_'

/--
Assigns to a private name. The attributes that describe the request itself are restricted.
-/
def assignPrivate (name : String) (v : Value) : Except Failure Unit :=
  match name, v with
  | "__class__", v => .error (.operand (.notClass name v.kindName))
  | "__dict__", .dict _ => .ok ()
  | "__dict__", v => .error (.operand (.notAttributes name v.kindName))
  | "__weakref__", _ => .error (.operand (.readOnly name kindName))
  | _, _ => .ok ()

def assignAttribute? (name : String) (v : Value) : Option (Except Failure Unit) :=
  if name ∈ sharedAttributes then some (.error (.operand (.sharedAttribute kindName name)))
  else if name ∈ computedAttributes then some (.error (.operand (.noSetter kindName name)))
  else if isPrivate name then some (assignPrivate name v)
  else none

end RankFusion.QueryRequest
