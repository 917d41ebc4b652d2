import FidelityGate.Json.Token

/-!
# Documents

The second half of reading a document: its tokens become one value.  The reader keeps the
containers that are still open, innermost first, and a stage that says what may come next.  Repeated
keys of an object are kept, in the order of the text.
-/

namespace FidelityGate.Json

/-- An open container with what it holds so far, last first.  A `field` waits for its value. -/
inductive Frame where
  | items (before : List Value)
  | fields (before : List (String × Value))
  | field (before : List (String × Value)) (key : String)

inductive Stage where
  | value
  | firstItem
  | firstKey
  | key
  | colon
  | afterValue
  | done (v : Value)

structure Reader where
  frames : List Frame
  stage : Stage

/-- Hands a complete value to the innermost open container. -/
def deliver (v : Value) : List Frame → Option Reader
  | [] => some ⟨[], .done v⟩
  | .items before :: outer => some ⟨.items (v :: before) :: outer, .afterValue⟩
  | .field before key :: outer => some ⟨.fields ((key, v) :: before) :: outer, .afterValue⟩
  | .fields _ :: _ => none

def beginValue (frames : List Frame) : Token → Option Reader
  | .scalar v => deliver v frames
  | .text s => deliver (.text s) frames
  | .openList => some ⟨.items [] :: frames, .firstItem⟩
  | .openObject => some ⟨.fields [] :: frames, .firstKey⟩
  | _ => none

def closeFrame : List Frame → Token → Option Reader
  | .items before :: outer, .closeList => deliver (.list before.reverse) outer
  | .fields before :: outer, .closeObject => deliver (.object before.reverse) outer
  | _, _ => none

def readKey : List Frame → Token → Option Reader
  | .fields before :: outer, .text key => some ⟨.field before key :: outer, .colon⟩
  | _, _ => none

def afterComma : List Frame → Option Reader
  | .items before :: outer => some ⟨.items before :: outer, .value⟩
  | .fields before :: outer => some ⟨.fields before :: outer, .key⟩
  | _ => none

/-- Only a container that holds something counts for the depth of a document, so the depth is
checked when the first item or key arrives. -/
def advance (limits : Limits) (reader : Reader) (token : Token) : Option Reader :=
  let mayHold := reader.frames.length ≤ limits.depth
  match reader.stage, token with
  | .value, token => beginValue reader.frames token
  | .firstItem, .closeList => closeFrame reader.frames .closeList
  | .firstItem, token => if mayHold then beginValue reader.frames token else none
  | .firstKey, .closeObject => closeFrame reader.frames .closeObject
  | .firstKey, token => if mayHold then readKey reader.frames token else none
  | .key, token => readKey reader.frames token
  | .colon, .colon => some { reader with stage := .value }
  | .afterValue, .comma => afterComma reader.frames
  | .afterValue, token => closeFrame reader.frames token
  | _, _ => none

def readFrom (limits : Limits) (reader : Reader) : List Token → Option Value
  | [] => match reader.stage with
    | .done v => some v
    | _ => none
  | token :: rest =>
    match advance limits reader token with
    | none => none
    | some next => readFrom limits next rest

def document? (limits : Limits) (tokens : List Token) : Option Value :=
  readFrom limits ⟨[], .value⟩ tokens

/-- The value of a document, and nothing for a text that is not one. -/
def read? (limits : Limits) (s : String) : Option Value :=
  (tokens? limits s.toList).bind (document? limits)

end FidelityGate.Json
