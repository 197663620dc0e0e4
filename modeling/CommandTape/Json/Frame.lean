import CommandTape.Json.Number
import CommandTape.Json.Shape

/-!
# Open containers in JSON

What a container that is being read has so far, which values it takes, and what may come next in
it. A record may be written as an object or as the array of its fields; members of an object that
no field names are passed over.
-/

namespace CommandTape.Json

/-- A value that is not made of others. -/
inductive Scalar
  | null
  | flag (b : Bool)
  | number (n : Number)
  | text (s : String)

/-- An open container with what it has so far. -/
inductive Frame
  /-- A record as an object; the place is that of the member being read, if a field names it. -/
  | keyed (fields : List (Field Shape)) (parts : List (Option Value)) (place : Option Nat)
  /-- A record as an array; the place is that of the next value. -/
  | listed (fields : List (Field Shape)) (parts : List (Option Value)) (place : Nat)
  /-- A list of words, the last of them first. -/
  | words (cells : List UInt32)
  /-- An object or an array that is passed over. -/
  | object
  | array

/-- What may come next between two tokens. -/
inductive Due
  | value (want : Want)
  /-- The first value of an array, or its end. -/
  | firstValue (want : Want)
  | key
  /-- The first key of an object, or its end. -/
  | firstKey
  | colon (want : Want)
  /-- A comma or the end of the container. -/
  | separator
  /-- The end of the container. -/
  | closing

namespace Want

/-- Only a literal that is passed over may hold lone surrogates. -/
def isStrict : Want → Bool
  | shape .. => true
  | anything => false

/-- The value that a scalar gives, if it is what was asked for. -/
def take : Want → Scalar → Except Trouble Value
  | anything, _ => .ok .null
  | shape .., .number .outOfRange => .error .grammar
  | shape .text _, .text s => .ok (.text s)
  | shape .flag _, .flag b => .ok (.flag b)
  | shape .word _, .number (.natural n) =>
    if n < UInt32.size then .ok (.word (UInt32.ofNat n)) else .error .content
  | shape _ true, .null => .ok .null
  | shape .., _ => .error .content

end Want

namespace Frame

def isObject : Frame → Bool
  | keyed .. | object => true
  | listed .. | words _ | array => false

/-- Whether keys are texts of their own rather than passed over. -/
def isStrict : Frame → Bool
  | keyed .. => true
  | listed .. | words _ | object | array => false

/-- Puts in the value that was due, and says what comes next. -/
def put (value : Value) : Frame → Frame × Due
  | keyed fields parts (some k) => (keyed fields (parts.set k (some value)) none, .separator)
  | listed fields parts k =>
    (listed fields (parts.set k (some value)) (k + 1),
      if k + 1 < fields.length then .separator else .closing)
  | words cells =>
    match value with
    | .word n => (words (n :: cells), .separator)
    | _ => (words cells, .separator)
  | frame => (frame, .separator)

/-- What follows a comma. -/
def afterComma : Frame → Due
  | keyed .. | object => .key
  | listed fields _ k => .value ((fields[k]?.map Field.want).getD .anything)
  | words _ => .value (.shape .word false)
  | array => .value .anything

/-- Takes in a key. A member that no field names is passed over, and one that has been read
    already is refused. -/
def openKey (key : String) : Frame → Except Trouble (Frame × Due)
  | keyed fields parts _ =>
    match fields.findIdx? (·.name == key) with
    | none => .ok (keyed fields parts none, .colon .anything)
    | some k =>
      if (parts[k]?.join).isSome then .error .content
      else .ok (keyed fields parts (some k), .colon ((fields[k]?.map Field.want).getD .anything))
  | frame => .ok (frame, .colon .anything)

/-- The value of a container that ends here. -/
def close : Frame → Except Trouble Value
  | keyed fields parts _ =>
    if (fields.zip parts).all fun (f, part) => part.isSome || f.mayBeAbsent then
      .ok (.record parts)
    else .error .content
  | listed fields parts k =>
    if (fields.drop k).all Field.mayBeCut then .ok (.record parts) else .error .content
  | words cells => .ok (.words cells.reverse)
  | object | array => .ok .null

end Frame

end CommandTape.Json
