import RowInsert.Value.Basic

/-!
# Members of types

Every type of the host gives its values members of certain names, which cannot be replaced.

* `Value.fixedMembers` are the names of the functions that belong to a value's type.
* `Value.unwritable?` tells of the names of its parts, which can be read but not written.
-/

namespace RowInsert

/-- The names in these texts, which blanks separate. -/
def words (texts : List String) : List String := texts.flatMap fun text => text.splitOn " "

/-- The members that everything has. -/
def commonMembers : List String :=
  words
    ["__delattr__ __dir__ __doc__ __eq__ __format__ __ge__ __getattribute__ __getstate__",
     "__gt__ __hash__ __init__ __init_subclass__ __le__ __lt__ __ne__ __new__ __reduce__",
     "__reduce_ex__ __repr__ __setattr__ __sizeof__ __str__ __subclasshook__"]

/-- The members that whole numbers have besides. -/
def wholeMembers : List String :=
  words
    ["__abs__ __add__ __and__ __bool__ __ceil__ __divmod__ __float__ __floor__ __floordiv__",
     "__getnewargs__ __index__ __int__ __invert__ __lshift__ __mod__ __mul__ __neg__ __or__",
     "__pos__ __pow__ __radd__ __rand__ __rdivmod__ __rfloordiv__ __rlshift__ __rmod__",
     "__rmul__ __ror__ __round__ __rpow__ __rrshift__ __rshift__ __rsub__ __rtruediv__",
     "__rxor__ __sub__ __truediv__ __trunc__ __xor__ as_integer_ratio bit_count bit_length",
     "conjugate from_bytes to_bytes"]

/-- The members that dictionaries have besides. -/
def dictionaryMembers : List String :=
  words
    ["__class_getitem__ __contains__ __delitem__ __getitem__ __ior__ __iter__ __len__ __or__",
     "__reversed__ __ror__ __setitem__ clear copy fromkeys get items keys pop popitem",
     "setdefault update values"]

namespace Value

/-- The members that the type of a value has besides those that everything has. -/
def ownMembers : Value → List String
  | .bool _ | .int _ => wholeMembers
  | .mapping .plain _ _ => dictionaryMembers
  | .mapping (.defaulting _) _ _ => words ["__copy__ __missing__"] ++ dictionaryMembers
  | .null => words
    ["__bool__"]
  | .float .. => words
    ["__abs__ __add__ __bool__ __ceil__ __divmod__ __float__ __floor__ __floordiv__",
     "__getformat__ __getnewargs__ __int__ __mod__ __mul__ __neg__ __pos__ __pow__ __radd__",
     "__rdivmod__ __rfloordiv__ __rmod__ __rmul__ __round__ __rpow__ __rsub__ __rtruediv__",
     "__sub__ __truediv__ __trunc__ as_integer_ratio conjugate fromhex hex is_integer"]
  | .complex .. => words
    ["__abs__ __add__ __bool__ __complex__ __getnewargs__ __mul__ __neg__ __pos__ __pow__",
     "__radd__ __rmul__ __rpow__ __rsub__ __rtruediv__ __sub__ __truediv__ conjugate"]
  | .text _ => words
    ["__add__ __contains__ __getitem__ __getnewargs__ __iter__ __len__ __mod__ __mul__",
     "__rmod__ __rmul__ capitalize casefold center count encode endswith expandtabs find",
     "format format_map index isalnum isalpha isascii isdecimal isdigit isidentifier islower",
     "isnumeric isprintable isspace istitle isupper join ljust lower lstrip maketrans",
     "partition removeprefix removesuffix replace rfind rindex rjust rpartition rsplit rstrip",
     "split splitlines startswith strip swapcase title translate upper zfill"]
  | .bytes .constant _ _ => words
    ["__add__ __bytes__ __contains__ __getitem__ __getnewargs__ __iter__ __len__ __mod__",
     "__mul__ __rmod__ __rmul__ capitalize center count decode endswith expandtabs find",
     "fromhex hex index isalnum isalpha isascii isdigit islower isspace istitle isupper join",
     "ljust lower lstrip maketrans partition removeprefix removesuffix replace rfind rindex",
     "rjust rpartition rsplit rstrip split splitlines startswith strip swapcase title",
     "translate upper zfill"]
  | .bytes .changeable _ _ => words
    ["__add__ __alloc__ __contains__ __delitem__ __getitem__ __iadd__ __imul__ __iter__",
     "__len__ __mod__ __mul__ __rmod__ __rmul__ __setitem__ append capitalize center clear",
     "copy count decode endswith expandtabs extend find fromhex hex index insert isalnum",
     "isalpha isascii isdigit islower isspace istitle isupper join ljust lower lstrip",
     "maketrans partition pop remove removeprefix removesuffix replace reverse rfind rindex",
     "rjust rpartition rsplit rstrip split splitlines startswith strip swapcase title",
     "translate upper zfill"]
  | .bytes .view _ _ => words
    ["__delitem__ __enter__ __exit__ __getitem__ __iter__ __len__ __setitem__ cast hex release",
     "tobytes tolist toreadonly"]
  | .sequence .tuple _ _ => words
    ["__add__ __class_getitem__ __contains__ __getitem__ __getnewargs__ __iter__ __len__",
     "__mul__ __rmul__ count index"]
  | .sequence .list _ _ => words
    ["__add__ __class_getitem__ __contains__ __delitem__ __getitem__ __iadd__ __imul__",
     "__iter__ __len__ __mul__ __reversed__ __rmul__ __setitem__ append clear copy count",
     "extend index insert pop remove reverse sort"]
  | .sequence .set _ _ => words
    ["__and__ __class_getitem__ __contains__ __iand__ __ior__ __isub__ __iter__ __ixor__",
     "__len__ __or__ __rand__ __ror__ __rsub__ __rxor__ __sub__ __xor__ add clear copy",
     "difference difference_update discard intersection intersection_update isdisjoint",
     "issubset issuperset pop remove symmetric_difference symmetric_difference_update union",
     "update"]
  | .sequence .frozenSet _ _ => words
    ["__and__ __class_getitem__ __contains__ __iter__ __len__ __or__ __rand__ __ror__ __rsub__",
     "__rxor__ __sub__ __xor__ copy difference intersection isdisjoint issubset issuperset",
     "symmetric_difference union"]
  | .sequence .deque _ _ => words
    ["__add__ __class_getitem__ __contains__ __copy__ __delitem__ __getitem__ __iadd__",
     "__imul__ __iter__ __len__ __mul__ __reversed__ __rmul__ __setitem__ append appendleft",
     "clear copy count extend extendleft index insert pop popleft remove reverse rotate"]
  | .mapping .readOnly _ _ => words
    ["__class_getitem__ __contains__ __getitem__ __ior__ __iter__ __len__ __or__ __reversed__",
     "__ror__ copy get items keys values"]
  | .range _ => words
    ["__bool__ __contains__ __getitem__ __iter__ __len__ __reversed__ count index"]
  | .stream .. => words
    ["__del__ __iter__ __next__ close send throw"]
  | .date _ => words
    ["__add__ __radd__ __rsub__ __sub__ ctime fromisocalendar fromisoformat fromordinal",
     "fromtimestamp isocalendar isoformat isoweekday max min replace resolution strftime",
     "timetuple today toordinal weekday"]
  | .moment _ => words
    ["__add__ __radd__ __rsub__ __sub__ astimezone combine ctime date dst fromisocalendar",
     "fromisoformat fromordinal fromtimestamp isocalendar isoformat isoweekday max min now",
     "replace resolution strftime strptime time timestamp timetuple timetz today toordinal",
     "tzname utcfromtimestamp utcnow utcoffset utctimetuple weekday"]
  | .decimal .. => words
    ["__abs__ __add__ __bool__ __ceil__ __complex__ __copy__ __deepcopy__ __divmod__ __float__",
     "__floor__ __floordiv__ __int__ __mod__ __module__ __mul__ __neg__ __pos__ __pow__",
     "__radd__ __rdivmod__ __rfloordiv__ __rmod__ __rmul__ __round__ __rpow__ __rsub__",
     "__rtruediv__ __sub__ __truediv__ __trunc__ adjusted as_integer_ratio as_tuple canonical",
     "compare compare_signal compare_total compare_total_mag conjugate copy_abs copy_negate",
     "copy_sign exp fma from_float is_canonical is_finite is_infinite is_nan is_normal is_qnan",
     "is_signed is_snan is_subnormal is_zero ln log10 logb logical_and logical_invert",
     "logical_or logical_xor max max_mag min min_mag next_minus next_plus next_toward",
     "normalize number_class quantize radix remainder_near rotate same_quantum scaleb shift",
     "sqrt to_eng_string to_integral to_integral_exact to_integral_value"]
  | .record .details _ _ => words
    ["__annotations__ __dataclass_fields__ __dataclass_params__ __match_args__ __module__",
     "__slots__"]
  | _ => []

/-- The functions that belong to the type of a value. -/
def fixedMembers (v : Value) : List String := commonMembers ++ v.ownMembers

/-- The names of the parts of a date. -/
def dateParts : List String := words ["day month year"]

/-- For a part of a value that can be read but not written, the type that it belongs to, if a
message names it. -/
def unwritable? (v : Value) (name : String) : Option (Option String) :=
  match v with
  | .bool _ | .int _ | .colour _ =>
    among (words ["denominator imag numerator real"]) (some "int")
  | .float .. | .decimal .. => among (words ["imag real"]) (some v.qualifiedName)
  | .complex .. => among (words ["imag real"]) none
  | .range _ => among (words ["start step stop"]) none
  | .bytes .view _ _ =>
    among (words ["c_contiguous contiguous f_contiguous format itemsize nbytes ndim obj readonly",
      "shape strides suboffsets"]) (some v.qualifiedName)
  | .sequence .deque _ _ => among ["maxlen"] (some v.qualifiedName)
  | .stream .. =>
    (among ["gi_code"] none).or
      (among (words ["gi_frame gi_running gi_suspended gi_yieldfrom"]) (some v.qualifiedName))
  | .date d => among dateParts (some (Value.date d).qualifiedName)
  | .moment m =>
    (among dateParts (some (Value.date m.date).qualifiedName)).or
      (among (words ["fold hour microsecond minute second tzinfo"]) (some v.qualifiedName))
  | _ => none
where
  among (names : List String) (owner : Option String) : Option (Option String) :=
    if names.contains name then some owner else none

end Value

end RowInsert
