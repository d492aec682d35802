import AccessPolicy.Text.Split
import AccessPolicy.Value.TypeRef

/-!
# Names of members that can be called

The host program gives the values of its built-in types members that can be called.
`Builtin.memberNames` lists those that a type has beside the members of its bases.
-/

namespace AccessPolicy
namespace Builtin

/-- The members of a built-in type that can be called, separated by blanks. -/
def memberText : Builtin → String
  | .object =>
      "__delattr__ __dir__ __eq__ __format__ __ge__ __getattribute__ __getstate__ __gt__ " ++
      "__init__ __init_subclass__ __le__ __lt__ __ne__ __new__ __reduce__ __reduce_ex__ " ++
      "__repr__ __setattr__ __sizeof__ __str__ __subclasshook__"
  | .null =>
      "__bool__"
  | .bool =>
      "__and__ __or__ __rand__ __ror__ __rxor__ __xor__"
  | .int =>
      "__format__ __getattribute__ __eq__ __ge__ __gt__ __le__ __lt__ __ne__ " ++
      "__abs__ __add__ __and__ __bool__ __ceil__ __divmod__ __float__ __floor__ " ++
      "__floordiv__ __getnewargs__ __index__ __int__ __invert__ __lshift__ __mod__ __mul__ " ++
      "__neg__ __or__ __pos__ __pow__ __radd__ __rand__ __rdivmod__ __rfloordiv__ " ++
      "__rlshift__ __rmod__ __rmul__ __ror__ __round__ __rpow__ __rrshift__ __rshift__ " ++
      "__rsub__ __rtruediv__ __rxor__ __sub__ __truediv__ __trunc__ __xor__ " ++
      "as_integer_ratio bit_count bit_length conjugate from_bytes to_bytes"
  | .float =>
      "__format__ __getattribute__ __eq__ __ge__ __gt__ __le__ __lt__ __ne__ " ++
      "__abs__ __add__ __bool__ __ceil__ __divmod__ __float__ __floor__ __floordiv__ " ++
      "__getformat__ __getnewargs__ __int__ __mod__ __mul__ __neg__ __pos__ __pow__ " ++
      "__radd__ __rdivmod__ __rfloordiv__ __rmod__ __rmul__ __round__ __rpow__ __rsub__ " ++
      "__rtruediv__ __sub__ __truediv__ __trunc__ as_integer_ratio conjugate fromhex hex " ++
      "is_integer"
  | .text =>
      "__format__ __getattribute__ __eq__ __ge__ __gt__ __le__ __lt__ __ne__ " ++
      "__add__ __contains__ __getitem__ __getnewargs__ __iter__ __len__ __mod__ __mul__ " ++
      "__rmod__ __rmul__ capitalize casefold center count encode endswith expandtabs find " ++
      "format format_map index isalnum isalpha isascii isdecimal isdigit isidentifier " ++
      "islower isnumeric isprintable isspace istitle isupper join ljust lower lstrip " ++
      "maketrans partition removeprefix removesuffix replace rfind rindex rjust rpartition " ++
      "rsplit rstrip split splitlines startswith strip swapcase title translate upper zfill"
  | .bytes =>
      "__getattribute__ __eq__ __ge__ __gt__ __le__ __lt__ __ne__ " ++
      "__add__ __bytes__ __contains__ __getitem__ __getnewargs__ __iter__ __len__ __mod__ " ++
      "__mul__ __rmod__ __rmul__ capitalize center count decode endswith expandtabs find " ++
      "fromhex hex index isalnum isalpha isascii isdigit islower isspace istitle isupper " ++
      "join ljust lower lstrip maketrans partition removeprefix removesuffix replace rfind " ++
      "rindex rjust rpartition rsplit rstrip split splitlines startswith strip swapcase " ++
      "title translate upper zfill"
  | .list =>
      "__getattribute__ __eq__ __ge__ __gt__ __le__ __lt__ __ne__ " ++
      "__add__ __class_getitem__ __contains__ __delitem__ __getitem__ __iadd__ __imul__ " ++
      "__iter__ __len__ __mul__ __reversed__ __rmul__ __setitem__ append clear copy count " ++
      "extend index insert pop remove reverse sort"
  | .tuple =>
      "__getattribute__ __eq__ __ge__ __gt__ __le__ __lt__ __ne__ " ++
      "__add__ __class_getitem__ __contains__ __getitem__ __getnewargs__ __iter__ __len__ " ++
      "__mul__ __rmul__ count index"
  | .set =>
      "__getattribute__ __eq__ __ge__ __gt__ __le__ __lt__ __ne__ " ++
      "__and__ __class_getitem__ __contains__ __iand__ __ior__ __isub__ __iter__ __ixor__ " ++
      "__len__ __or__ __rand__ __ror__ __rsub__ __rxor__ __sub__ __xor__ add clear copy " ++
      "difference difference_update discard intersection intersection_update isdisjoint " ++
      "issubset issuperset pop remove symmetric_difference symmetric_difference_update " ++
      "union update"
  | .map =>
      "__getattribute__ __eq__ __ge__ __gt__ __le__ __lt__ __ne__ " ++
      "__class_getitem__ __contains__ __delitem__ __getitem__ __ior__ __iter__ __len__ " ++
      "__or__ __reversed__ __ror__ __setitem__ clear copy fromkeys get items keys pop " ++
      "popitem setdefault update values"
  | .orderedMap =>
      "__delitem__ __eq__ __ge__ __gt__ __ior__ __iter__ __le__ __lt__ __ne__ __or__ " ++
      "__reversed__ __ror__ clear copy fromkeys items keys move_to_end pop popitem " ++
      "setdefault update values"
  | .defaultMap =>
      "__copy__ __missing__"
  | .mapView =>
      "__eq__ __ge__ __getattribute__ __gt__ __le__ __lt__ __ne__ " ++
      "__class_getitem__ __contains__ __getitem__ __ior__ __iter__ __len__ __or__ " ++
      "__reversed__ __ror__ copy get items keys values"
  | .readOnlyMap =>
      "__class_getitem__ __contains__ __getitem__ __iter__ __len__ get items keys values"
  | .model =>
      "__class_getitem__ __copy__ __deepcopy__ __get_pydantic_core_schema__ " ++
      "__get_pydantic_json_schema__ __getattr__ __iter__ __pretty__ " ++
      "__pydantic_init_subclass__ __replace__ __repr_args__ __repr_name__ " ++
      "__repr_recursion__ __repr_str__ __rich_repr__ __setstate__ _calculate_keys " ++
      "_copy_and_set_values _get_value _iter _setattr_handler construct copy dict from_orm " ++
      "json model_construct model_copy model_dump model_dump_json model_json_schema " ++
      "model_parametrized_name model_post_init model_rebuild model_validate " ++
      "model_validate_json model_validate_strings parse_file parse_obj parse_raw schema " ++
      "schema_json update_forward_refs validate"
  | .type =>
      "__call__ __instancecheck__ __or__ __prepare__ __ror__ __subclasscheck__ " ++
      "__subclasses__ mro"
  | .function =>
      "__call__ __get__"
  | .method =>
      "__call__"
  | .date =>
      "__format__ __getattribute__ __eq__ __ge__ __gt__ __le__ __lt__ __ne__ " ++
      "__add__ __radd__ __rsub__ __sub__ ctime fromisocalendar fromisoformat fromordinal " ++
      "fromtimestamp isocalendar isoformat isoweekday replace strftime timetuple today " ++
      "toordinal weekday"
  | .timestamp =>
      "astimezone combine date dst now strptime time timestamp timetz tzname " ++
      "utcfromtimestamp utcnow utcoffset utctimetuple"
  | _ => ""

/-- The members of a built-in type that can be called. -/
def memberNames (b : Builtin) : List String :=
  Text.split ' ' b.memberText

end Builtin

namespace TypeRef

/-- Whether the values of a type cannot be keys of a map. -/
def isUnhashable (t : TypeRef) : Bool :=
  match t.root, t with
  | .builtin .list, _ => true
  | .builtin .set, _ => true
  | .builtin .map, _ => true
  | .builtin .orderedMap, _ => true
  | .builtin .defaultMap, _ => true
  | .builtin .readOnlyMap, _ => true
  | .builtin .model, _ => true
  | _, .declared _ .record .. => true
  | _, _ => false

/-- Whether the values of a type have a member of a name that can be called. -/
def hasCallable (t : TypeRef) (name : String) : Bool :=
  if name = "__hash__" then !t.isUnhashable
  else
    t.lineage.any fun u =>
      match u with
      | .builtin b => !name.isEmpty && b.memberNames.contains name
      | .schema _ => false
      | .declared _ _ _ _ isRedactable _ => isRedactable && name = "redacted_fields"

/-- The type among a type and its bases whose own values a member works on. -/
def definer (t : TypeRef) (name : String) : TypeRef :=
  (t.lineage.find? fun u =>
    match u with
    | .builtin b => b.memberNames.contains name
    | _ => false).getD t

end TypeRef
end AccessPolicy
