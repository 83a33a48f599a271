import Logbook.Json.Reader

/-!
Shapes of JSON: what a text or a value must look like to stand for something. A text is read in
its own order, so the first thing wrong with it decides how it fails. What has been read is in
one form for every shape: an object has its fields in the order of the shape, and all of them.
-/

namespace Logbook.Json

/-- What an absent field stands for. -/
inductive Presence where
  | needed
  /-- Null, but only in an object. -/
  | orNull
  | orElse (v : Value)
deriving Repr

inductive Shape where
  | any
  | text
  | flag
  /-- An integer of 32 bits without sign. -/
  | word32
  | list (item : Shape)
  | dict (item : Shape)
  | optional (item : Shape)
  /-- An object with these fields, or an array of them; other keys mean nothing. -/
  | record (fields : List (String × Presence × Shape))
  /-- One of some names, or an object with null under that name. -/
  | choice (names : List String)
  /-- A name under the key `type` and under `params` what belongs to the name. -/
  | tagged (cases : List (String × Shape))

namespace Shape

def isText (v : Value) : Bool := v matches .string _

def isFlag (v : Value) : Bool := v matches .bool _

def isNull (v : Value) : Bool := v matches .null

def isWord32 : Value → Bool
  | .number (.integer n) => 0 ≤ n && n < UInt32.size
  | _ => false

def taggedValue (name : String) (content : Value) : Value :=
  .object [("type", .string name), ("params", content)]

mutual

/-- The value in the form of the shape. -/
def fit : Shape → Value → Option Value
  | any, v => some v.sorted
  | text, v => if isText v then some v else none
  | flag, v => if isFlag v then some v else none
  | word32, v => if isWord32 v then some v else none
  | list item, .array vs => (vs.mapM item.fit).map .array
  | list _, _ => none
  | dict item, .object ms =>
    (ms.mapM fun (m : String × Value) => (item.fit m.2).map fun v => (m.1, v)).map fun ms =>
      .object (Keyed.ofList ms)
  | dict _, _ => none
  | optional item, v => if isNull v then some v else item.fit v
  | record fields, .object ms => (fitFields fields ms).map .object
  | record fields, .array vs => (fitItems fields vs).map .object
  | record _, _ => none
  | choice names, .string s => if s ∈ names then some (.string s) else none
  | choice names, .object [(s, .null)] => if s ∈ names then some (.string s) else none
  | choice _, _ => none
  | tagged cases, v => do
    let (tag, content) ←
      match v with
      | .array [tag, content] => some (tag, content)
      | .object ms =>
        match ms.filter (·.1 == "type"), ms.filter (·.1 == "params") with
        | [(_, tag)], [(_, content)] => some (tag, content)
        | _, _ => none
      | _ => none
    let name ←
      match tag with
      | .string name => some name
      | .object [(name, .null)] => some name
      | _ => none
    let content ← fitCase cases name content
    return taggedValue name content

def fitFields : List (String × Presence × Shape) → Members → Option Members
  | [], _ => some []
  | (name, presence, shape) :: rest, ms => do
    let v ←
      match ms.filter (·.1 == name), presence with
      | [(_, v)], _ => shape.fit v
      | [], .orNull => some .null
      | [], .orElse v => some v
      | _, _ => none
    return (name, v) :: (← fitFields rest ms)

def fitItems : List (String × Presence × Shape) → List Value → Option Members
  | [], [] => some []
  | [], _ :: _ => none
  | (name, _, shape) :: rest, v :: vs => do
    return (name, ← shape.fit v) :: (← fitItems rest vs)
  | (name, .orElse v, _) :: rest, [] => do return (name, v) :: (← fitItems rest [])
  | _ :: _, [] => none

def fitCase : List (String × Shape) → String → Value → Option Value
  | [], _, _ => none
  | (name, shape) :: rest, s, v => if name = s then shape.fit v else fitCase rest s v

end

/-- A scalar of some kind. Where there is another one, or an array or object, the kind is wrong
rather than the text. -/
def scalar (accept : Value → Bool) (s : List Char) : Except Fault (Value × List Char) :=
  match s with
  | [] => .error .truncated
  | c :: s =>
    match scalar? .use c s with
    | some r => do
      let (v, s) ← r
      if accept v then return (v, s) else throw .mismatch
    | none => .error (if c = '[' ∨ c = '\x7b' then .mismatch else .malformed)

/-- A name out of some, in quotes. -/
def quotedName (names : List String) (s : List Char) : Except Fault (String × List Char) := do
  match ← scalar isText s with
  | (.string name, s) => if name ∈ names then return (name, s) else throw .mismatch
  | _ => throw .mismatch

/-- The end of an array or object from which all that matters has been read. -/
def closed (close : Char) (s : List Char) : Except Fault (List Char) := expect close (skipSpace s)

def readChoice (names : List String) (room : Nat) (s : List Char) :
    Except Fault (String × List Char) := do
  let s := skipSpace s
  match s with
  | [] => throw .truncated
  | c :: inside =>
    if c = '"' then quotedName names s
    else if c = '\x7b' ∧ 1 < room then
      let (name, s) ← quotedName names (skipSpace inside)
      let (_, s) ← scalar isNull (skipSpace (← colon s))
      return (name, ← closed '\x7d' s)
    else throw .malformed

/-- All fields, given those that were found in an object. -/
def complete (found : Members) : List (String × Presence × Shape) → Except Fault Members
  | [] => .ok []
  | (name, presence, _) :: rest => do
    let v ←
      match found.get? name, presence with
      | some v, _ => .ok v
      | none, .orNull => .ok .null
      | none, .orElse v => .ok v
      | none, .needed => .error .mismatch
    return (name, v) :: (← complete found rest)

/-- The rest of the fields of an array that has ended. -/
def missing : List (String × Presence × Shape) → Except Fault Members
  | [] => .ok []
  | (name, .orElse v, _) :: rest => do return (name, v) :: (← missing rest)
  | _ :: _ => .error .mismatch

/-- What is known of a tagged value while its members are read. -/
structure Tagging where
  tag : Option String
  /-- What stood before the tag, as written. -/
  early : Option Value
  content : Option Value

/-- With the name at hand, content that stood before it is brought into shape. -/
def Tagging.setTag (t : Tagging) (cases : List (String × Shape)) (name : String) :
    Except Fault Tagging :=
  match t.early with
  | none => .ok { t with tag := some name }
  | some v =>
    match fitCase cases name v with
    | some v => .ok ⟨some name, none, some v⟩
    | none => .error .mismatch

def Tagging.result (t : Tagging) : Except Fault Value :=
  match t.tag, t.content with
  | some name, some content => .ok (taggedValue name content)
  | _, _ => .error .mismatch

mutual

/-- Reads a value of this shape. -/
def readAt : Nat → Nat → Shape → List Char → Except Fault (Value × List Char)
  | 0, _, _, _ => .error .truncated
  | n + 1, room, shape, s =>
    let s := skipSpace s
    let enter (c : Char) (inside : List Char → Except Fault (Value × List Char)) :=
      if s.head? != some c then scalar (fun _ => false) s
      else if room ≤ 1 then .error .malformed
      else inside (s.drop 1)
    match shape with
    | any => do
      let (v, s) ← value .use n room s
      return (v.sorted, s)
    | text => scalar isText s
    | flag => scalar isFlag s
    | word32 => scalar isWord32 s
    | list item =>
      enter '[' fun s => do
        let (isEmpty, s) ← opened ']' s
        if isEmpty then return (.array [], s)
        let (vs, s) ← readItems n (room - 1) item s
        return (.array vs, s)
    | dict item =>
      enter '\x7b' fun s => do
        let (isEmpty, s) ← opened '\x7d' s
        if isEmpty then return (.object [], s)
        let (ms, s) ← readEntries n (room - 1) item s
        return (.object (Keyed.ofList ms), s)
    | optional item =>
      if s.head? = some 'n' then (word ['u', 'l', 'l'] (s.drop 1)).map fun s => (.null, s)
      else readAt n room item s
    | record fields =>
      if s.head? = some '[' then
        enter '[' fun s => do
          let (isEmpty, s) ← opened ']' s
          if isEmpty then return (.object (← missing fields), s)
          let (ms, s) ← readPlaces n (room - 1) fields s
          return (.object ms, s)
      else
        enter '\x7b' fun s => do
          let (isEmpty, s) ← opened '\x7d' s
          let (found, s) ←
            if isEmpty then pure ([], s) else readFields n (room - 1) fields [] s
          return (.object (← complete found fields), s)
    | choice names => do
      let (name, s) ← readChoice names room s
      return (.string name, s)
    | tagged cases =>
      let names := cases.map (·.1)
      if s.head? = some '[' then
        enter '[' fun s => do
          let (isEmpty, s) ← opened ']' s
          if isEmpty then throw .mismatch
          let (name, s) ← readChoice names (room - 1) s
          let (more, s) ← following ']' s
          if !more then throw .mismatch
          let (v, s) ← readAt n (room - 1) ((cases.lookup name).getD any) s
          return (taggedValue name v, ← closed ']' s)
      else
        enter '\x7b' fun s => do
          let (isEmpty, s) ← opened '\x7d' s
          if isEmpty then throw .mismatch
          let (t, s) ← readTagged n (room - 1) cases ⟨none, none, none⟩ s
          return (← t.result, s)

def readItems : Nat → Nat → Shape → List Char → Except Fault (List Value × List Char)
  | 0, _, _, _ => .error .truncated
  | n + 1, room, item, s => do
    let (v, s) ← readAt n room item s
    let (more, s) ← following ']' s
    if !more then return ([v], s)
    let (vs, s) ← readItems n room item s
    return (v :: vs, s)

def readEntries : Nat → Nat → Shape → List Char → Except Fault (Members × List Char)
  | 0, _, _, _ => .error .truncated
  | n + 1, room, item, s => do
    let (k, s) ← key .use s
    let (v, s) ← readAt n room item (← colon s)
    let (more, s) ← following '\x7d' s
    if !more then return ([(k, v)], s)
    let (ms, s) ← readEntries n room item s
    return ((k, v) :: ms, s)

/-- The fields of a record written as an array, where another item follows. -/
def readPlaces : Nat → Nat → List (String × Presence × Shape) → List Char →
    Except Fault (Members × List Char)
  | 0, _, _, _ => .error .truncated
  | _ + 1, _, [], _ => .error .malformed
  | n + 1, room, (name, _, shape) :: rest, s => do
    let (v, s) ← readAt n room shape s
    if rest.isEmpty then return ([(name, v)], ← closed ']' s)
    let (more, s) ← following ']' s
    let (ms, s) ← if more then readPlaces n room rest s else (missing rest).map fun ms => (ms, s)
    return ((name, v) :: ms, s)

/-- The members of a record; a field may come only once. -/
def readFields : Nat → Nat → List (String × Presence × Shape) → Members → List Char →
    Except Fault (Members × List Char)
  | 0, _, _, _, _ => .error .truncated
  | n + 1, room, fields, found, s => do
    let (k, s) ← key .use s
    let (found, s) ←
      match fields.lookup k with
      | some (_, shape) => do
        if (found.get? k).isSome then throw .mismatch
        let (v, s) ← readAt n room shape (← colon s)
        pure ((k, v) :: found, s)
      | none => do pure (found, ← passOver (← colon s))
    let (more, s) ← following '\x7d' s
    if more then readFields n room fields found s else return (found, s)

def readTagged : Nat → Nat → List (String × Shape) → Tagging → List Char →
    Except Fault (Tagging × List Char)
  | 0, _, _, _, _ => .error .truncated
  | n + 1, room, cases, t, s => do
    let (k, s) ← key .use s
    let (t, s) ←
      if k = "type" then do
        if t.tag.isSome then throw .mismatch
        let (name, s) ← readChoice (cases.map (·.1)) room (← colon s)
        pure (← t.setTag cases name, s)
      else if k = "params" then do
        if t.early.isSome || t.content.isSome then throw .mismatch
        match t.tag.bind fun name => cases.lookup name with
        | some shape =>
          let (v, s) ← readAt n room shape (← colon s)
          pure ({ t with content := some v }, s)
        | none =>
          let (v, s) ← value .use n room (← colon s)
          pure ({ t with early := some v }, s)
      else do pure (t, ← passOver (← colon s))
    let (more, s) ← following '\x7d' s
    if more then readTagged n room cases t s else return (t, s)

end

/-- Reads a whole text of this shape. -/
def read (shape : Shape) (text : String) : Except Fault Value := do
  let s := text.toList
  let (v, s) ← readAt (3 * s.length + 4) depthRoom shape s
  finished s
  return v

end Shape

end Logbook.Json
