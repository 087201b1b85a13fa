import RowInsert.Value.Equality

/-!
# What values contain

* `Value.size?` is the size of a value that has one, `Value.length` what it gives as its length,
  and `Value.truthy` whether it counts as true.
* `Value.checkRoom` fails for a value that no list has room for.
* `Value.take?` is the first items of a value that can be walked again and again; a stream, which
  cannot, is read elsewhere.
* `Value.equal` is the host's equality, for which a caseless mapping counts as the dictionary that
  can be made of it.
* `Value.isIterable` says whether a value declares that it can be walked: an indexed sequence can
  be, but does not say so.
-/

namespace RowInsert

namespace Value

/-- The size of a value, if it has one. -/
def size? : Value → Option Nat
  | .text s | .derivedText s _ => some s.length
  | .bytes _ _ contents => some contents.length
  | .sequence (.bag claimed) _ _ => some claimed.toNat
  | .sequence _ _ items => some items.length
  | .mapping _ _ entries => some entries.length
  | .range r => some r.size
  | _ => none

/-- The greatest length, and the greatest position that can be asked for: `2 ^ 63 - 1`. -/
def greatestIndex : Int := 9223372036854775807

/-- The length that a value gives; one that is out of range, or none, is a failure. -/
def length (v : Value) : Except Failure Nat :=
  match v with
  | .sequence (.bag claimed) _ _ =>
    if claimed < 0 then .error .lengthNegative
    else if greatestIndex < claimed then .error .lengthTooLarge
    else .ok claimed.toNat
  | .range r => if greatestIndex < r.size then .error .progressionTooLong else .ok r.size
  | _ =>
    match v.size? with
    | some n => .ok n
    | none => .error (.unsized v.qualifiedName)

/-- Whether a value counts as true: not null, zero or empty.  What claims a size fails if it is
none. -/
def truthy (v : Value) : Except Failure Bool :=
  match v with
  | .null => .ok false
  | .bool b => .ok b
  | .int n => .ok (n != 0)
  | .float x _ => .ok !x.isZero
  | .complex re im _ => .ok !(re.isZero && im.isZero)
  | .decimal d _ => .ok !d.isZero
  | .sequence (.bag _) _ _ => v.length.map (· != 0)
  | _ => .ok ((v.size?.map (· != 0)).getD true)

/-- More items than any list has room for. -/
def beyondRoom : Nat := Nat.pow 2 34

/-- Fails for a value whose items, by the length that it gives, no list has room for. -/
def checkRoom (v : Value) : Except Failure Unit :=
  match v with
  | .sequence (.bag _) _ _ | .range _ => do
    let n ← v.length
    if beyondRoom ≤ n then throw .noRoom
  | _ => .ok ()

/-- The first `n` items of a value that can be walked and is no stream: characters, bytes, items,
keys or terms. -/
def take? (n : Nat) : Value → Option (List Value)
  | .text s | .derivedText s _ => some ((s.toList.take n).map fun c => .text (String.ofList [c]))
  | .bytes _ _ contents => some ((contents.take n).map fun b => .int b.toNat)
  | .sequence _ _ items => some (items.take n)
  | .mapping _ _ entries => some ((entries.take n).map Prod.fst)
  | .range r => some ((r.take n).map .int)
  | _ => none

/-- All items of a value that can be walked and is no stream. -/
def items? : Value → Option (List Value)
  | .sequence _ _ items => some items
  | v => v.size?.bind fun n => v.take? n

/-- Items among which the first that meets a condition on types is found, if any is: the terms of a
progression are all of one type, so the first stands for them all. -/
def itemsByType? : Value → Option (List Value)
  | .range r => some ((r.take 1).map .int)
  | v => v.items?

/-- Whether a value declares that it can be walked. -/
def isIterable : Value → Bool
  | .sequence .indexed _ _ => false
  | .stream .. => true
  | v => v.size?.isSome

/-- The types whose items are no bindings although they can be walked. -/
def isUnitary : Value → Bool
  | .text _ | .derivedText .. => true
  | .bytes .constant _ _ | .bytes .changeable _ _ => true
  | .mapping .. => true
  | _ => false

end Value

/-! ### Entries of mappings -/

namespace Entries

/-- Whether a key is the one sought: a caseless mapping compares texts without regard to case. -/
def matchesKey (kind : MappingKind) (sought key : Value) : Bool :=
  match kind with
  | .caseless =>
    match sought.text?, key.text? with
    | some s, some t => Text.sameLetters s t
    | _, _ => key.held sought
  | _ => key.held sought

/-- The value that a mapping of the given kind has at a key: that of the first entry that
matches. -/
def find? (kind : MappingKind) (entries : List (Value × Value)) (sought : Value) : Option Value :=
  (entries.find? fun e => matchesKey kind sought e.1).map Prod.snd

/-- Whether an entry matches the key. -/
def contains (kind : MappingKind) (entries : List (Value × Value)) (sought : Value) : Bool :=
  entries.any fun e => matchesKey kind sought e.1

/-- The entries after a write: a key that is there keeps its place and form and gets the new
value, a new one goes to the end. -/
def put (entries : List (Value × Value)) (key value : Value) : List (Value × Value) :=
  match entries with
  | [] => [(key, value)]
  | (k, v) :: rest => if k.held key then (k, value) :: rest else (k, v) :: put rest key value

/-- The entries after all these writes, in order, into an empty mapping. -/
def ofPairs (pairs : List (Value × Value)) : List (Value × Value) :=
  pairs.foldl (fun entries (k, v) => put entries k v) []

theorem contains_eq_isSome (kind : MappingKind) (entries : List (Value × Value))
    (sought : Value) : contains kind entries sought = (find? kind entries sought).isSome := by
  rw [Bool.eq_iff_iff, find?, Option.isSome_map, List.find?_isSome, contains, List.any_eq_true]

/-- What a caseless mapping has at one of its own keys, of which the entry may be behind another. -/
def read (entries : List (Value × Value)) (key own : Value) : Except Failure Value :=
  match key.lost? with
  | some f => .error f
  | none => .ok ((find? .caseless entries key).getD own)

/-- The entries of a caseless mapping as a dictionary has them: each of its keys with the value of
the first entry that matches. -/
def settled (entries : List (Value × Value)) : List (Value × Value) :=
  ofPairs (entries.map fun (k, v) => (k, (find? .caseless entries k).getD v))

end Entries

/-! ### Equality of mappings that answer otherwise than they are written -/

namespace Value

mutual

/-- The value with every caseless mapping in it in the form that it has as a dictionary. -/
def settled : Value → Value
  | .sequence kind i items => .sequence kind i (settledItems items)
  | .mapping kind i entries =>
    let inner := settledEntries entries
    match kind, uncopied? entries with
    | .caseless, none => .mapping kind i (Entries.settled inner)
    | _, _ => .mapping kind i inner
  | .record cls i fields => .record cls i (settledFields fields)
  | v => v

def settledItems : List Value → List Value
  | [] => []
  | x :: xs => settled x :: settledItems xs

def settledEntries : List (Value × Value) → List (Value × Value)
  | [] => []
  | (k, v) :: es => (settled k, settled v) :: settledEntries es

def settledFields : List (String × Value) → List (String × Value)
  | [] => []
  | (name, v) :: fs => (name, settled v) :: settledFields fs

end

/-- The host's equality. -/
def equal (v w : Value) : Except Failure Bool := agree .first [] v.settled w.settled

end Value

end RowInsert
