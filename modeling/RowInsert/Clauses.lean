import RowInsert.Identifier
import RowInsert.Value.Amend
import RowInsert.Value.Contents

/-!
# Lists of clauses

A list of clauses may be any value that has a length and can be read at position zero.

* `Clauses.first` is what stands at position zero, and `Clauses.afterFirst` the list once that has
  been read: a defaulting mapping has gained an entry if it had none.
* `ClauseKind.of` is the kind of clauses that an event is reported for, by the classes that a
  clause is an instance of.
* `Handler.methods` are the ways in which clauses are compiled, and `dispatch` chooses among them by
  the name of a clause's class.
-/

namespace RowInsert

namespace Clauses

/-- What a defaulting mapping answers for a key that it does not have. -/
def defaultEntry : Value := .text "DEFAULT"

/-- The number of clauses. -/
def size (clauses : Value) : Except Failure Nat := clauses.length

/-- What a mapping answers for the missing key zero. -/
def supplied : MappingKind → Except Failure Value
  | .defaulting .standard => .ok defaultEntry
  | .defaulting .quoter => .error Delimiters.argumentMissing
  | .defaulting (.unfit type) => .error (.notCallable type)
  | _ => .error (.missingKey "0")

/-- The clause at position zero of a list that is not empty. -/
def first (clauses : Value) : Except Failure Value :=
  match clauses with
  | .sequence .set _ _ | .sequence .frozenSet _ _ | .sequence (.bag _) _ _ =>
    .error (.notSubscriptable clauses.qualifiedName)
  | .mapping kind _ entries =>
    match Entries.find? kind entries (.int 0) with
    | some v => .ok v
    | none => supplied kind
  | _ =>
    match (clauses.take? 1).bind List.head? with
    | some v => .ok v
    | none => .error (.notSubscriptable clauses.qualifiedName)

/-- The list after position zero has been read. -/
def afterFirst (clauses : Value) : Value :=
  match clauses with
  | .mapping (.defaulting .standard) i entries =>
    if entries.length = 1 && !Entries.contains (.defaulting .standard) entries (.int 0) then
      .mapping (.defaulting .standard) i (Entries.put entries (.int 0) defaultEntry)
    else clauses
  | _ => clauses

/-- Another value after position zero of the list has been read, which may be part of it. -/
def afterFirstIn (clauses v : Value) : Value :=
  match clauses with
  | .mapping (.defaulting _) i _ => v.amend i (afterFirst clauses)
  | _ => v

end Clauses

/-- The kinds of clauses in events. -/
inductive ClauseKind where
  | none
  | raw
  | rule
  | unknown
  | multiple
  deriving DecidableEq, Repr

namespace ClauseKind

def name : ClauseKind → String
  | .none => "none"
  | .raw => "raw"
  | .rule => "rule"
  | .unknown => "unknown"
  | .multiple => "multiple"

/-- The kind of a single clause, by the classes that it is an instance of. -/
def ofNode (node : Value) : ClauseKind :=
  match node.nodeClass? with
  | some .raw => .raw
  | some .rule => .rule
  | _ => .unknown

/-- The kind of a list of clauses, with the clause if there is just one. -/
def of (clauses : Value) : Except Failure (ClauseKind × Option Value) := do
  let n ← Clauses.size clauses
  if n = 0 then return (.none, Option.none)
  if 1 < n then return (.multiple, Option.none)
  let node ← Clauses.first clauses
  return (ofNode node, some node)

end ClauseKind

/-- The ways in which a clause is compiled. -/
inductive Handler where
  | raw
  | rule
  /-- A value that is called with the clause, whatever it is. -/
  | value (v : Value)
  deriving Repr

namespace Handler

/-- The handlers by the names of classes.  Classes named in `rawLike` are compiled as raw clauses
are. -/
def methods (rawLike : List String) : List (String × Handler) :=
  rawLike.map (fun name => (name, .raw))
    ++ [(NodeClass.raw.name, .raw), (NodeClass.rule.name, .rule)]

end Handler

/-- What a visitor of the given name has for the class of a node, by the name of that class. -/
def dispatch {α : Type} (visitor : String) (methods : String → Option α) (node : Value) :
    Except Failure α :=
  match methods node.typeName with
  | some method => .ok method
  | none => .error (.noHandler node.typeName visitor)

/-- An attribute that a value has to have. -/
def Value.attribute (v : Value) (name : String) : Except Failure Value :=
  match v.attribute? name with
  | some x => .ok x
  | none => .error (.noAttribute v.qualifiedName name)

end RowInsert
