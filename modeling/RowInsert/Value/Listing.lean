import RowInsert.Failure
import RowInsert.Number.Shortest
import RowInsert.Text.Quoted

/-!
# The text of values

* `Value.listing` is the form of a value in listings: text in quotes, containers in their
  brackets, records with their fields.
* `Value.plain` is the form of a value in running text: text as it is.

An object inside itself is shown as dots.  Both fail only for a record that lacks a declared field.
-/

namespace RowInsert

/-- A number padded with zeros. -/
def padded (width n : Nat) : String :=
  let digits := toString n
  String.ofList (List.replicate (width - digits.length) '0') ++ digits

namespace Date

/-- Year, month and day, all of fixed width. -/
def text (d : Date) : String :=
  padded 4 d.year ++ "-" ++ padded 2 d.month ++ "-" ++ padded 2 d.day

end Date

namespace Moment

/-- The time of day; microseconds only when there are any. -/
def timeText (m : Moment) : String :=
  padded 2 m.hour ++ ":" ++ padded 2 m.minute ++ ":" ++ padded 2 m.second
    ++ (if m.microsecond = 0 then "" else "." ++ padded 6 m.microsecond)

def text (m : Moment) : String := m.date.text ++ " " ++ m.timeText

/-- The moment as a time stamp of universal time. -/
def stamp (m : Moment) : String := m.date.text ++ "T" ++ m.timeText ++ "+00:00"

/-- The numbers of a moment; second and microsecond as far as the last that is not zero. -/
def parts (m : Moment) : List Nat :=
  [m.date.year, m.date.month, m.date.day, m.hour, m.minute]
    ++ (if m.microsecond ≠ 0 then [m.second, m.microsecond]
      else if m.second ≠ 0 then [m.second] else [])

end Moment

/-- Texts separated by a comma and a space. -/
def commaSeparated (parts : List String) : String := ", ".intercalate parts

/-- The text of a complex number: both parts in brackets, or the imaginary one alone when the
real one is a positive zero. -/
def complexText (re im : Binary64) : String :=
  if re.isZero && !re.negative then FloatStyle.complexPart.text im ++ "j"
  else
    let imaginary := FloatStyle.complexPart.text im
    let sign := if im.negative && !im.isNaN then "" else "+"
    "(" ++ FloatStyle.complexPart.text re ++ sign ++ imaginary ++ "j)"

namespace BytesKind

/-- Bytes in listings.  Constant bytes escape the quote that they stand between, changeable ones
always the single quote. -/
def listing (kind : BytesKind) (contents : List UInt8) : String :=
  match kind with
  | .constant => Text.quotedBytes (Text.quoteForBytes contents) contents
  | .changeable => "bytearray(" ++ Text.quotedBytes '\'' contents ++ ")"
  | .view => "<memory>"

end BytesKind

namespace SequenceKind

/-- Whether the listing of a container shows its items. -/
def showsItems : SequenceKind → Bool
  | .indexed | .bag _ => false
  | _ => true

/-- What stands for a container inside itself. -/
def again : SequenceKind → String
  | .tuple => "(...)"
  | _ => "[...]"

/-- The listing of a container whose items are listed as `items`. -/
def enclose (kind : SequenceKind) (items : List String) : String :=
  let body := commaSeparated items
  match kind with
  | .list => "[" ++ body ++ "]"
  | .tuple => if items.length = 1 then "(" ++ body ++ ",)" else "(" ++ body ++ ")"
  | .set => if items.isEmpty then "set()" else "\x7b" ++ body ++ "\x7d"
  | .frozenSet => if items.isEmpty then "frozenset()" else "frozenset(\x7b" ++ body ++ "\x7d)"
  | .deque => "deque([" ++ body ++ "])"
  | .indexed | .bag _ => "<" ++ kind.name ++ " object>"

end SequenceKind

namespace MappingKind

/-- Whether the listing of a mapping shows its entries. -/
def showsEntries : MappingKind → Bool
  | .caseless => false
  | _ => true

/-- What stands for a mapping inside itself. -/
def again : MappingKind → String
  | .ordered => "..."
  | .readOnly => "mappingproxy(\x7b...\x7d)"
  | _ => "\x7b...\x7d"

/-- The listing of a mapping whose keys and values are listed as `entries`. -/
def enclose (kind : MappingKind) (entries : List (String × String)) : String :=
  let body := "\x7b" ++ commaSeparated (entries.map fun (k, v) => k ++ ": " ++ v) ++ "\x7d"
  match kind with
  | .plain => body
  | .readOnly => "mappingproxy(" ++ body ++ ")"
  | .ordered =>
    if entries.isEmpty then "OrderedDict()"
    else "OrderedDict([" ++ commaSeparated (entries.map fun (k, v) => "(" ++ k ++ ", " ++ v ++ ")")
      ++ "])"
  | .defaulting .absent => "defaultdict(None, " ++ body ++ ")"
  | .defaulting _ => "defaultdict(" ++ body ++ ")"
  | .caseless => "<" ++ kind.name ++ " object>"

end MappingKind

namespace Progression

def listing (r : Progression) : String :=
  "range(" ++ toString r.start ++ ", " ++ toString r.stop
    ++ (if r.step = 1 then "" else ", " ++ toString r.step) ++ ")"

end Progression

namespace RecordClass

/-- What stands for a record inside itself. -/
def again : String := "..."

/-- The listing of a record from those of its fields: all that its class declares, in the order
of their declaration, of which the first that is absent or fails ends it. -/
def enclose (cls : RecordClass) (fields : List (String × Except Failure String)) :
    Except Failure String :=
  if cls.comparesFields then do
    let parts ← cls.fieldNames.mapM fun name =>
      match fields.lookup name with
      | some shown => shown.map fun text => name ++ "=" ++ text
      | none =>
        if cls.nodeClass? = some .raw ∧ name = "bindings" then .ok "bindings=None"
        else .error (.noAttribute cls.name name)
    return cls.name ++ "(" ++ commaSeparated parts ++ ")"
  else return "<" ++ cls.name ++ " object>"

end RecordClass

namespace Value

/-- The text of a value inside objects of the given identities: `again` if it is one of these. -/
def unlessWithin (outer : List Identity) (i : Identity) (again : String)
    (shown : Except Failure String) : Except Failure String :=
  if i != 0 && outer.contains i then .ok again else shown

mutual

/-- The form of a value in listings, inside objects of the given identities. -/
def listingIn (outer : List Identity) : Value → Except Failure String
  | .null => .ok "None"
  | v@(.bool _) => .ok v.wholeText
  | v@(.int _) => .ok v.wholeText
  | .float x _ => .ok (FloatStyle.listing.text x)
  | .complex re im _ => .ok (complexText re im)
  | .text s | .derivedText s _ => .ok (Text.quoted s)
  | .colour c => .ok ("<Color." ++ c.name ++ ": " ++ toString c.number ++ ">")
  | .bytes kind _ contents => .ok (kind.listing contents)
  | .sequence kind i items =>
    if kind.showsItems then
      unlessWithin outer i kind.again do return kind.enclose (← listItems (i :: outer) items)
    else .ok (kind.enclose [])
  | .mapping kind i entries =>
    if kind.showsEntries then
      unlessWithin outer i kind.again do return kind.enclose (← listEntries (i :: outer) entries)
    else .ok (kind.enclose [])
  | .range r => .ok r.listing
  | .stream .. => .ok "<generator object>"
  | .date d =>
    .ok ("datetime.date(" ++ commaSeparated ([d.year, d.month, d.day].map toString) ++ ")")
  | .moment m => .ok ("datetime.datetime(" ++ commaSeparated (m.parts.map toString) ++ ")")
  | .decimal d _ => .ok ("Decimal('" ++ d.text ++ "')")
  | .object _ => .ok "<object object>"
  | .record cls i fields =>
    unlessWithin outer i RecordClass.again (cls.enclose (listFields (i :: outer) fields))

def listItems (outer : List Identity) : List Value → Except Failure (List String)
  | [] => .ok []
  | x :: xs => do return (← listingIn outer x) :: (← listItems outer xs)

def listEntries (outer : List Identity) :
    List (Value × Value) → Except Failure (List (String × String))
  | [] => .ok []
  | (k, v) :: es => do
    return (← listingIn outer k, ← listingIn outer v) :: (← listEntries outer es)

def listFields (outer : List Identity) :
    List (String × Value) → List (String × Except Failure String)
  | [] => []
  | (name, v) :: fs => (name, listingIn outer v) :: listFields outer fs

end

/-- The form of a value in listings. -/
def listing (v : Value) : Except Failure String := v.listingIn []

/-- The form of a value in running text. -/
def plain : Value → Except Failure String
  | .text s | .derivedText s _ => .ok s
  | v@(.colour _) => .ok v.wholeText
  | .date d => .ok d.text
  | .moment m => .ok m.text
  | .decimal d _ => .ok d.text
  | .mapping .readOnly i entries => listing (.mapping .plain i entries)
  | v => v.listing

@[simp] theorem plain_text (s : String) : (Value.text s).plain = .ok s := rfl

end Value

end RowInsert
