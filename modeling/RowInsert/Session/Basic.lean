import RowInsert.Override
import RowInsert.Value.Attributes

/-!
# Sessions

A session keeps objects by name while compilations follow each other.

* `Session.bind` names a value, and `Session.value` is the value of a name.
* `Session.setUp` makes a compiler, which is an object like any other.
* `Session.attribute?` is an attribute of an object: a field of a record, or one that was assigned.
* `Session.amend` gives an object a new form wherever it occurs.
-/

namespace RowInsert

/-- An entry of an association list is written: a name that is there keeps its place. -/
def putNamed {α : Type} (entries : List (String × α)) (name : String) (a : α) :
    List (String × α) :=
  match entries with
  | [] => [(name, a)]
  | (n, old) :: rest => if n = name then (n, a) :: rest else (n, old) :: putNamed rest name a

theorem lookup_putNamed_self {α : Type} (entries : List (String × α)) (name : String) (a : α) :
    (putNamed entries name a).lookup name = some a := by
  induction entries with
  | nil => simp only [putNamed, List.lookup_cons, beq_self_eq_true]
  | cons e rest ih =>
    obtain ⟨n, old⟩ := e
    by_cases h : n = name
    · simp only [putNamed, h, ↓reduceIte, List.lookup_cons, beq_self_eq_true]
    · have hb : (name == n) = false := beq_false_of_ne (Ne.symm h)
      simp only [putNamed, h, ↓reduceIte, List.lookup_cons, hb, ih]

/-- What a session keeps. -/
structure Session where
  state : State
  values : List (String × Value)
  /-- How each compiler was set up, by the compiler. -/
  compilers : List (Identity × Options)
  /-- The compilers that lost what they were set up with. -/
  bare : List Identity
  /-- Objects whose attributes are the entries of a dictionary, with that dictionary. -/
  dictionaries : List (Value × Value)
  /-- Every identity from this one on is unused. -/
  nextIdentity : Identity

/-- A computation on a session that may fail; a failure keeps the changes made before it. -/
abbrev Edit := ExceptT Failure (StateM Session)

namespace Session

/-- A session in which nothing has been named; the colours have their identities already. -/
def initial (clock : Clock) : Session :=
  { state := .initial clock
    values := []
    compilers := []
    bare := []
    dictionaries := []
    nextIdentity := Colour.blue.identity + 1 }

/-- The session for the next step: a new page of the journal. -/
def nextPage (s : Session) : Session :=
  { s with state := { s.state with journal := s.state.journal.nextPage } }

/-! ### Names -/

/-- The failure to find a name. -/
def unbound (name : String) : Failure := .missingKey (Text.quoted name)

/-- The value of a name. -/
def value (s : Session) (name : String) : Except Failure Value :=
  match s.values.lookup name with
  | some v => .ok v
  | none => .error (unbound name)

/-- A value is named; what the name meant before is forgotten. -/
def bind (s : Session) (name : String) (v : Value) : Session :=
  { s with values := putNamed s.values name v }

theorem value_bind_self (s : Session) (name : String) (v : Value) :
    (s.bind name v).value name = .ok v := by
  simp only [value, bind, lookup_putNamed_self]

/-- A compiler is made. -/
def setUp (s : Session) (o : Options) : Value × Session :=
  (.record (.compiler o.name) s.nextIdentity [],
    { s with
      compilers := (s.nextIdentity, o) :: s.compilers
      nextIdentity := s.nextIdentity + 1 })

/-- A query becomes a new object. -/
def newQuery (s : Session) (q : Query) : Value × Session :=
  (.record .query s.nextIdentity
      [("sql", q.sql), ("params", .sequence .list (s.nextIdentity + 1) q.params)],
    { s with nextIdentity := s.nextIdentity + 2 })

/-! ### Attributes -/

/-- The number of placeholders that a query counts in its statement, unless that has a way of its
own to count. -/
def placeholderCount? (s : Session) (v : Value) (name : String) : Option (Except Failure Value) :=
  match v with
  | .record .query _ fields =>
    if name = countAttribute then do
      let sql ← fields.lookup "sql"
      let text ← sql.text?
      match s.state.attribute? sql "count" with
      | some f => some (f.call (.text (String.singleton placeholder)))
      | none => some (.ok (.int (countPlaceholders text)))
    else none
  | _ => none

/-- An attribute of an object, if it has one of that name; it may fail to be found out. -/
def attribute? (s : Session) (v : Value) (name : String) : Option (Except Failure Value) :=
  ((s.state.attribute? v name).map .ok).or (s.placeholderCount? v name)

/-- An attribute that an object has to have. -/
def attributeOf (s : Session) (v : Value) (name : String) : Except Failure Value :=
  (s.attribute? v name).getD (.error (.noAttribute v.qualifiedName name))

/-- Fails for a value that has something else in the place of the function that tells its
entries. -/
def checkItemsOf (s : Session) (v : Value) : Except Failure Unit :=
  match s.state.attribute? v "items" with
  | some x => .error x.callEmpty
  | none => .ok ()

end Session

/-! ### Changes in place -/

namespace Options

/-- A change in place of a value that the description holds. -/
def amend (i : Identity) (new : Value) (o : Options) : Options :=
  { o with
    quoter := match o.quoter with
      | .delimited d => .delimited ⟨d.opening.amend i new, d.closing.amend i new⟩
      | .constant v => .constant (v.amend i new)
      | other => other
    validator := match o.validator with
      | .push v => .push (v.amend i new)
      | .replace sql => .replace (sql.amend i new)
      | other => other
    metadata := o.metadata.amend i new }

end Options

namespace Journal

/-- A change in place of a value that was observed. -/
def amend (i : Identity) (new : Value) (j : Journal) : Journal :=
  { j with
    metrics := j.metrics.map fun (name, m) =>
      (name, { m with
        histograms := m.histograms.map fun (key, vs) => (key, vs.map fun v => v.amend i new) }) }

end Journal

/-- The attributes in a dictionary of attributes. -/
def Value.attributeEntries (v : Value) : List (String × Value) :=
  match v with
  | .mapping _ _ entries => entries.filterMap fun (k, x) => k.text?.map (·, x)
  | _ => []

/-- The attributes of a record with its declared fields first, in the order of their declaration. -/
def RecordClass.arranged (cls : RecordClass) (own : List (String × Value)) :
    List (String × Value) :=
  let declared := cls.fieldNames.filterMap fun name =>
    (Value.attribute? (.record cls 0 own) name).map (name, ·)
  declared ++ own.filter fun f => !cls.fieldNames.contains f.1

namespace Session

/-- An object takes a new form wherever it occurs. -/
def replace (s : Session) (i : Identity) (new : Value) : Session :=
  if i = 0 then s
  else
    let form := new.tied
    let named : List (String × Value) → List (String × Value) :=
      List.map fun (name, v) => (name, v.amend i form)
    { s with
      state := { s.state with
        journal := s.state.journal.amend i form
        attributes := s.state.attributes.map fun (j, own) => (j, named own) }
      values := named s.values
      compilers := s.compilers.map fun (j, o) => (j, o.amend i form)
      dictionaries := s.dictionaries.map fun (object, v) => (object, v.amend i form) }

/-- An object has these attributes and no others. -/
def giveAttributes (s : Session) (object : Value) (own : List (String × Value)) : Session :=
  match object with
  | .record cls i _ => s.replace i (.record cls i (cls.arranged own))
  | _ =>
    { s with
      state := { s.state with
        attributes := (object.identity, own)
          :: s.state.attributes.filter fun entry => entry.1 != object.identity } }

/-- An object takes a new form wherever it occurs; if it is a dictionary of attributes, the objects
that have these change too. -/
def amend (s : Session) (old new : Value) : Session :=
  let sharers := s.dictionaries.filter fun (_, v) => old.identity != 0 && v.identity == old.identity
  sharers.foldl (fun t (object, _) => t.giveAttributes object new.attributeEntries)
    (s.replace old.identity new)

end Session

end RowInsert
