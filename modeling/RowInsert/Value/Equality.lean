import RowInsert.Number.Magnitude
import RowInsert.Text.LowerCase
import RowInsert.Value.Listing

/-!
# Equality of values

* `Value.agree` is the host's equality: `1`, `1.0` and `true` are one number, a list is no tuple,
  the order of a mapping's entries counts only between two ordered ones, records are equal if
  their class and their fields are.  A few values refuse to be compared, and two objects that both
  contain themselves are compared without end.
* `Value.Side` says which of two values is asked whether it equals the other, on which it depends
  what refusal comes first.
* `Value.same` takes a refusal for a no.
* `Value.held` is the equality of things held in containers: an object equals itself there.
* `Value.unhashable?` tells what keeps a value from being a key, and `Value.lost?` why a caseless
  mapping does not find one of its own keys.
-/

namespace RowInsert

namespace Progression

/-- The number of terms. -/
def size (r : Progression) : Nat :=
  if 0 < r.step then ((r.stop - r.start + r.step - 1).fdiv r.step).toNat
  else if r.step < 0 then ((r.start - r.stop - r.step - 1).fdiv (-r.step)).toNat
  else 0

/-- The first `n` terms, or all if there are fewer. -/
def take (r : Progression) (n : Nat) : List Int :=
  (List.range (min n r.size)).map fun (i : Nat) => r.start + r.step * (i : Int)

/-- Whether two progressions have the same terms. -/
def same (r s : Progression) : Bool :=
  r.size == s.size && (r.size == 0 || (r.start == s.start && (r.size == 1 || r.step == s.step)))

@[simp] theorem length_take (r : Progression) (n : Nat) :
    (r.take n).length = min n r.size := by
  simp only [take, List.length_map, List.length_range]

end Progression

namespace SequenceKind

/-- Whether sequences of the two kinds can be equal by their items, in order. -/
def comparable : SequenceKind → SequenceKind → Bool
  | .list, .list | .tuple, .tuple | .deque, .deque => true
  | _, _ => false

/-- Whether sequences of different sizes are told apart before their items are looked at; tuples
are compared item by item as far as both go. -/
def comparesSizes : SequenceKind → Bool
  | .tuple => false
  | _ => true

/-- Whether the items have no order. -/
def unordered : SequenceKind → Bool
  | .set | .frozenSet => true
  | _ => false

end SequenceKind

namespace Value

/-- The real number that a value is, if it is one. -/
def magnitude? : Value → Option Magnitude
  | .float x _ => some x.magnitude
  | .decimal d _ => some d.magnitude
  | v => v.whole?.map fun (n : Int) => .ofRat (n : Rat)

/-- The complex number that a value is, if it is one: its real and imaginary parts. -/
def plane? : Value → Option (Magnitude × Magnitude)
  | .complex re im _ => some (re.magnitude, im.magnitude)
  | v => v.magnitude?.map fun m => (m, .ofRat 0)

/-- Whether two values are one object. -/
def identical (v w : Value) : Bool := v.identity != 0 && v.identity == w.identity

/-- Whether a value is a decimal that refuses to be compared with numbers. -/
def isSignaling : Value → Bool
  | .decimal (.nan _ signalling _) _ => signalling
  | _ => false

/-- Whether two values are numbers, and equal ones.  Numbers off the real line are never compared
with a decimal, not even with one that refuses. -/
def agreeNumbers (v w : Value) : Except Failure Bool :=
  match v.plane?, w.plane? with
  | some (a, b), some (c, d) =>
    if !b.same d then .ok false
    else if v.isSignaling || w.isSignaling then .error .undefinedResult
    else .ok (a.same c)
  | _, _ => .ok false

mutual

/-- The failure to use a value as a key, told of the first part that keeps it from being one. -/
def unhashable? : Value → Option Failure
  | .bytes .changeable _ _ => some (.unhashable BytesKind.changeable.name)
  | .sequence .tuple _ items => unhashableItem? items
  | .sequence .frozenSet _ _ | .sequence .indexed _ _ | .sequence (.bag _) _ _ => none
  | v@(.sequence _ _ _) => some (.unhashable v.qualifiedName)
  | v@(.mapping ..) => some (.unhashable v.qualifiedName)
  | .record cls _ fields =>
    if cls.frozen then unhashableField? fields
    else if cls.comparesFields then some (.unhashable cls.name)
    else none
  | v => if v.isSignaling then some .signalingKey else none

def unhashableItem? : List Value → Option Failure
  | [] => none
  | x :: xs => (unhashable? x).or (unhashableItem? xs)

def unhashableField? : List (String × Value) → Option Failure
  | [] => none
  | (_, x) :: xs => (unhashable? x).or (unhashableField? xs)

end

@[simp] theorem unhashable?_text (s : String) : unhashable? (.text s) = none := by
  simp only [unhashable?, isSignaling, Bool.false_eq_true, ↓reduceIte]

/-- Whether a value is a number that equals nothing, not even itself. -/
def isUnequalled : Value → Bool
  | .float x _ => x.isNaN
  | .complex re im _ => re.isNaN || im.isNaN
  | .decimal d _ => d.isNaN
  | _ => false

/-- The failure to find a key where keys are compared one by one. -/
def lost? (v : Value) : Option Failure :=
  if v.isSignaling then some .undefinedResult
  else if v.isUnequalled then some (.missingKey (v.listing.toOption.getD ""))
  else none

/-- The failure to copy a caseless mapping to a dictionary, told of the first key that it does not
find or that no dictionary takes. -/
def uncopied? (entries : List (Value × Value)) : Option Failure :=
  entries.findSome? fun e => e.1.lost?.or e.1.unhashable?

/-- Which of two values is asked whether it equals the other. -/
inductive Side where
  | first
  | second
  deriving DecidableEq, Repr

/-- Whether a mapping that is asked leaves the comparison to another one: a caseless one always has
it, and a plain dictionary, or a view of one, leaves it to what is no plain dictionary. -/
def yields : MappingKind → MappingKind → Bool
  | .caseless, _ => false
  | _, .caseless => true
  | .plain, l | .readOnly, l => l != .plain
  | _, _ => false

/-- Which of two mappings has its entries looked for in the other. -/
def leading (asked : Side) (k l : MappingKind) : Side :=
  match asked with
  | .first => if yields k l then .second else .first
  | .second => if yields l k then .first else .second

/-- Fails if a mapping cannot be copied to a dictionary, as which it is to be compared; only a
caseless one may not be one already. -/
def checkKeys (kind : MappingKind) (entries : List (Value × Value)) : Except Failure Unit :=
  match kind, uncopied? entries with
  | .caseless, some f => .error f
  | _, _ => .ok ()

/-- Both mappings, the one that is asked before the other. -/
def checkBoth (asked : Side) (k : MappingKind) (es : List (Value × Value)) (l : MappingKind)
    (fs : List (Value × Value)) : Except Failure Unit :=
  match asked with
  | .first => do
    checkKeys k es
    checkKeys l fs
  | .second => do
    checkKeys l fs
    checkKeys k es

/-- The objects that are being compared, from the innermost comparison on. -/
abbrev Comparisons := List (Identity × Identity)

/-- The objects that are being compared once two more are; two that are being compared already would
be compared for ever. -/
def enter (under : Comparisons) (i j : Identity) : Except Failure Comparisons :=
  if i != 0 && j != 0 && under.contains (i, j) then .error .endlessComparison
  else .ok ((i, j) :: under)

/-- The first declared field that a record lacks. -/
def lackedField? (cls : RecordClass) (fields : List (String × Value)) : Option String :=
  cls.fieldNames.find? fun name => (attribute? (.record cls 0 fields) name).isNone

/-- The first declared field that either of two records lacks, the one that is asked first. -/
def lackedByEither? (asked : Side) (cls : RecordClass) (fields others : List (String × Value)) :
    Option String :=
  match asked with
  | .first => (lackedField? cls fields).or (lackedField? cls others)
  | .second => (lackedField? cls others).or (lackedField? cls fields)

mutual

/-- The host's equality, where a caseless mapping is taken by its entries as they stand. -/
def agree (asked : Side) (under : Comparisons) : Value → Value → Except Failure Bool
  | .null, w => .ok w.isNull
  | .text s, w => .ok (w.text? == some s)
  | .derivedText s _, w => .ok (w.text? == some s)
  | .bytes _ _ a, .bytes _ _ b => .ok (a == b)
  | .sequence k i xs, .sequence l j ys =>
    if k.comparable l then do
      let within ← enter under i j
      if k.comparesSizes && xs.length != ys.length then return false
      else agreeItems asked within xs ys
    else if k.unordered && l.unordered then
      if xs.length == ys.length then allWithin asked under xs ys else .ok false
    else .ok (i == j && k == l)
  | .mapping k i es, .mapping l j fs => do
    checkBoth asked k es l fs
    let inside ← enter under i j
    let within ←
      if es.length != fs.length then .ok false
      else match leading asked k l with
        | .first => entriesWithin inside es fs
        | .second => fs.allM fun (key, w) => hasEntry inside key w es
    if within && k == .ordered && l == .ordered then agreeKeys asked inside es fs
    else return within
  | .range r, .range s => .ok (r.same s)
  | .stream i _ _, .stream j _ _ => .ok (i == j)
  | .date a, .date b => .ok (a == b)
  | .moment a, .moment b => .ok (a == b)
  | .object i, .object j => .ok (i == j)
  | .record c i fs, .record d j gs =>
    if c.comparesFields then
      if c == d then
        match lackedByEither? asked c fs gs with
        | some name => .error (.noAttribute c.name name)
        | none => do agreeFields asked (← enter under i j) c.fieldNames.length fs gs
      else .ok false
    else .ok (i == j)
  | v, w => agreeNumbers v w
termination_by structural v => v

/-- Item by item.  Things held in containers agree if they are one object. -/
def agreeItems (asked : Side) (under : Comparisons) :
    List Value → List Value → Except Failure Bool
  | [], ys => .ok ys.isEmpty
  | x :: xs, y :: ys => do
    let agrees ← if identical x y then .ok true else agree asked under x y
    if agrees then agreeItems asked under xs ys else return false
  | _ :: _, [] => .ok false
termination_by structural xs => xs

/-- Each of the first among the second. -/
def allWithin (asked : Side) (under : Comparisons) :
    List Value → List Value → Except Failure Bool
  | [], _ => .ok true
  | x :: xs, ys => do
    let found ← ys.anyM fun y => if identical x y then .ok true else agree asked under x y
    if found then allWithin asked under xs ys else return false
termination_by structural xs => xs

/-- Key by key. -/
def agreeKeys (asked : Side) (under : Comparisons) :
    List (Value × Value) → List (Value × Value) → Except Failure Bool
  | [], fs => .ok fs.isEmpty
  | (k, _) :: es, (l, _) :: fs => do
    let agrees ← if identical k l then .ok true else agree asked under k l
    if agrees then agreeKeys asked under es fs else return false
  | _ :: _, [] => .ok false
termination_by structural es => es

/-- Each entry of the first among those of the second; the first is asked. -/
def entriesWithin (under : Comparisons) :
    List (Value × Value) → List (Value × Value) → Except Failure Bool
  | [], _ => .ok true
  | (k, v) :: es, fs => do
    let found ← fs.anyM fun (l, w) => do
      let keys ← if identical k l then .ok true else agree .first under k l
      if !keys || identical v w then return keys else agree .first under v w
    if found then entriesWithin under es fs else return false
termination_by structural es => es

/-- Whether a key with its value, which are asked, is among entries. -/
def hasEntry (under : Comparisons) (key w : Value) : List (Value × Value) → Except Failure Bool
  | [] => .ok false
  | (k, v) :: es => do
    let keys ← if identical k key then .ok true else agree .second under k key
    let found ← if !keys || identical v w then .ok keys else agree .second under v w
    if found then return true else hasEntry under key w es
termination_by structural es => es

/-- The first `n` fields, one by one. -/
def agreeFields (asked : Side) (under : Comparisons) :
    Nat → List (String × Value) → List (String × Value) → Except Failure Bool
  | 0, _, _ => .ok true
  | _ + 1, [], gs => .ok gs.isEmpty
  | n + 1, (_, v) :: fs, (_, w) :: gs => do
    let agrees ← if identical v w then .ok true else agree asked under v w
    if agrees then agreeFields asked under n fs gs else return false
  | _ + 1, _ :: _, [] => .ok false
termination_by structural _ fs => fs

end

/-- Whether two values agree; values that refuse to be compared do not. -/
def same (v w : Value) : Bool :=
  match agree .first [] v w with
  | .ok b => b
  | .error _ => false

/-- Equality of things held in a container, or used as keys. -/
def held (v w : Value) : Bool := identical v w || same v w

@[simp] theorem same_text (s t : String) : same (.text s) (.text t) = (t == s) := by
  simp only [same, agree, text?_text, Option.some_beq_some]

/-- Texts are compared by their characters. -/
theorem same_of_text? {key : Value} {t : String} (hkey : key.text? = some t) (v : Value) :
    key.same v = (v.text? == some t) := by
  cases key with
  | text s | derivedText s i =>
    cases hkey
    simp only [same, agree]
  | _ => cases hkey

@[simp] theorem held_text (s t : String) : held (.text s) (.text t) = (t == s) := by
  simp [held, identical, identity]

end Value

end RowInsert
