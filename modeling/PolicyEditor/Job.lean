import PolicyEditor.Error
import PolicyEditor.Json.Reader

/-!
# Jobs

A job is a change request: it calls a method with parameters.  Jobs come as JSON values, on their
own or as the parts of a job of the method `multi_job`, and as the texts of job files.

The members of a job in a text are looked at one by one, so that the first fault of the text is
reported, be it a malformation or a mismatch.

## Main definitions

* `Job` : a change request.
* `Job.Method` : the methods, with their names.
* `Job.Fields` : the fields of a record, given as an object or as an array.
* `Job.ofJson`, `Job.parse` : the job of a JSON value and of a text.
-/

namespace PolicyEditor

/-- A change request. -/
structure Job where
  method : String
  /-- The parameters of the method; a job without them has the parameters of an empty object. -/
  params : Option Json := none
  /-- The number of the change request, which is passed through. -/
  crq : Option String := none

namespace Job

/-! ### Methods -/

/-- The methods that jobs can call. -/
inductive Method where
  | multiJob
  | createToplevel
  | deleteToplevel
  | createOwner
  | modifyOwner
  | deleteOwner
  | createHost
  | modifyHost
  | addToGroup
  | createService
  | deleteService
  | addToRule
  | removeFromRule
  | addRule
  | deleteRule
  | addToUser
  | removeFromUser
  | addServiceUser
  | deleteServiceUser
  | addServiceProtocol
  | deleteServiceProtocol
  | addServiceServer
  | deleteServiceServer
  | addServiceRule
  | deleteServiceRule
deriving DecidableEq, Repr

namespace Method

/-- The methods with the names by which jobs call them. -/
def table : List (String × Method) :=
  [("multi_job", multiJob), ("create_toplevel", createToplevel),
    ("delete_toplevel", deleteToplevel), ("create_owner", createOwner),
    ("modify_owner", modifyOwner), ("delete_owner", deleteOwner), ("create_host", createHost),
    ("modify_host", modifyHost), ("add_to_group", addToGroup), ("create_service", createService),
    ("delete_service", deleteService), ("add_to_rule", addToRule),
    ("remove_from_rule", removeFromRule), ("add_rule", addRule), ("delete_rule", deleteRule),
    ("add_to_user", addToUser), ("remove_from_user", removeFromUser),
    ("add_service_user", addServiceUser), ("delete_service_user", deleteServiceUser),
    ("add_service_protocol", addServiceProtocol),
    ("delete_service_protocol", deleteServiceProtocol),
    ("add_service_server", addServiceServer), ("delete_service_server", deleteServiceServer),
    ("add_service_rule", addServiceRule), ("delete_service_rule", deleteServiceRule)]

/-- The method of a name. -/
def ofName? (name : String) : Option Method :=
  (table.find? (·.1 == name)).map (·.2)

end Method

/-! ### Values of fields -/

/-- The result of decoding a JSON value. -/
abbrev Decoded := Except Json.Mismatch

/-- A string. -/
def decodeString : Json → Decoded String
  | .string s => .ok s
  | j => .error (.wrongType j "a string")

/-- A file path. -/
def decodePath : Json → Decoded Path
  | .string s => .ok ⟨s⟩
  | j => .error (.wrongType j "path string")

/-- An integer of 64 bits with a sign. -/
def decodeInt : Json → Decoded Int
  | j@(.integer n) => if Json.isInt64 n then .ok n else .error (.wrongValue j "i64")
  | j => .error (.wrongType j "i64")

/-- A list of values. -/
def decodeList {α : Type} (item : Json → Decoded α) : Json → Decoded (List α)
  | .array items => items.mapM item
  | j => .error (.wrongType j "a sequence")

/-- A value or `null`. -/
def decodeOption {α : Type} (value : Json → Decoded α) : Json → Decoded (Option α)
  | .null => .ok none
  | j => (value j).map some

/-! ### Records -/

/-- The values for the fields of a record. -/
inductive Source where
  /-- Members of an object, in the order of their keys; unknown ones do not count. -/
  | members (members : List (String × Json))
  /-- Items of an array, one for each field in the order of declaration. -/
  | items (items : List Json)

/-- The fields of a record and the values for them. -/
structure Fields where
  /-- The record as messages call it. -/
  title : String
  /-- The names of the fields in the order of declaration. -/
  names : List String
  source : Source

namespace Fields

/-- The fields of a record that is given as an object or as an array. -/
def ofJson (title : String) (names : List String) : Json → Decoded Fields
  | .object members => .ok ⟨title, names, .members members⟩
  | .array items => .ok ⟨title, names, .items items⟩
  | j => .error (.wrongType j ("struct " ++ title))

variable (f : Fields)

/-- The value for a field. -/
def value? (name : String) : Option Json :=
  match f.source with
  | .members members => Json.member? name members
  | .items items => (f.names.idxOf? name).bind (items[·]?)

/-- The decoded value of a field, if there is one. -/
def read {α : Type} (name : String) (decode : Json → Decoded α) : Decoded (Option α) :=
  match f.value? name with
  | some j => (decode j).map some
  | none => .ok none

/-- The names of the fields in the order in which their values are decoded. -/
def order : List String :=
  match f.source with
  | .members members => (members.map (·.1)).filter (f.names.contains ·)
  | .items _ => f.names

/-- The first mismatch among those of the fields, given in the order of declaration. -/
def check (mismatches : List (Option Json.Mismatch)) : Decoded Unit :=
  match f.order.findSome? fun name => ((f.names.zip mismatches).lookup name).join with
  | some mismatch => .error mismatch
  | none => .ok ()

/-- The number of fields as messages put it. -/
def countText : String :=
  if f.names.length = 1 then "1 element" else s!"{f.names.length} elements"

/-- The value of a field that has to be there. -/
def need {α : Type} (name : String) (field : Decoded (Option α)) : Decoded α := do
  match ← field with
  | some a => return a
  | none =>
    match f.source with
    | .members _ => throw (.missingField name)
    | .items _ =>
      throw (.wrongLength (f.names.idxOf name) s!"struct {f.title} with {f.countText}")

/-- An array has no more items than the record has fields. -/
def close : Decoded Unit :=
  match f.source with
  | .members _ => .ok ()
  | .items items =>
    if f.names.length < items.length then
      .error (.wrongLength items.length "fewer elements in array")
    else .ok ()

end Fields

/-- The mismatch of a field. -/
def fault? {α : Type} (field : Decoded α) : Option Json.Mismatch :=
  match field with
  | .ok _ => none
  | .error mismatch => some mismatch

/-! ### Jobs as values -/

/-- The names of the fields of a job. -/
def fieldNames : List String :=
  ["method", "params", "crq"]

/-- The job of a JSON value. -/
def ofJson (j : Json) : Decoded Job := do
  let f ← Fields.ofJson "Job" fieldNames j
  let method := f.read "method" decodeString
  let params := f.read "params" (decodeOption .ok)
  let crq := f.read "crq" (decodeOption decodeString)
  f.check [fault? method, fault? params, fault? crq]
  let job : Job :=
    { method := ← f.need "method" method, params := (← params).join, crq := (← crq).join }
  f.close
  return job

/-! ### Jobs as texts -/

section Text

open Json

/-- The fault that another value than `wanted` stands at a place. -/
def wrongTypeAt (wanted : String) (c : Cursor) : Fault :=
  match c.rest with
  | '[' :: _ => mismatch c (.wrongType (.array []) wanted)
  | '\x7b' :: _ => mismatch c (.wrongType (.object []) wanted)
  | _ =>
    match readScalar c with
    | .ok (found, c) => mismatch c (.wrongType found wanted)
    | .error fault => fault

/-- A string at a place. -/
def readStringField (c : Cursor) : Scan (String × Cursor) :=
  let c := skipBlanks c
  match c.rest with
  | '"' :: _ => readString (skipChar c)
  | _ => .error (wrongTypeAt "a string" c)

/-- A value or `null` at a place. -/
def readOptional {α : Type} (value : Cursor → Scan (α × Cursor)) (c : Cursor) :
    Scan (Option α × Cursor) :=
  let c := skipBlanks c
  match c.rest with
  | 'n' :: _ => (readWord "null".toList c).map (none, ·)
  | _ => (value c).map fun p => (some p.1, p.2)

/-- The parameters at a place within a job. -/
def readParams (c : Cursor) : Scan (Option Json × Cursor) :=
  readOptional (readValue (depthLimit - 1)) c

/-- The number of the change request at a place. -/
def readCrq (c : Cursor) : Scan (Option String × Cursor) :=
  readOptional readStringField c

/-- The fields of a job that have been read. -/
structure Partial where
  method : Option String := none
  params : Option (Option Json) := none
  crq : Option (Option String) := none

/-- The place behind the end of an object whose reading has failed at `c`. -/
def objectEnd (c : Cursor) : Cursor :=
  let c := skipBlanks c
  match c.rest with
  | '\x7d' :: _ => skipChar c
  | _ => c

/-- The value of the member `key` of a job, at most one of each name. -/
def readMember (job : Partial) (key : String) (c : Cursor) : Scan (Partial × Cursor) :=
  let twice := Except.error (mismatch (objectEnd c) (.duplicateField key))
  if key = "method" then
    if job.method.isSome then twice
    else do
      let (method, c) ← readStringField (← readColon c)
      return ({ job with method := some method }, c)
  else if key = "params" then
    if job.params.isSome then twice
    else do
      let (params, c) ← readParams (← readColon c)
      return ({ job with params := some params }, c)
  else if key = "crq" then
    if job.crq.isSome then twice
    else do
      let (crq, c) ← readCrq (← readColon c)
      return ({ job with crq := some crq }, c)
  else do return (job, ← skipValue (← readColon c))

/-- The members of a job behind its brace, at most `limit` many. -/
def readMembers : (limit : Nat) → (first : Bool) → Partial → Cursor → Scan (Job × Cursor)
  | 0, _, _, c => .error (faultAt c .endInObject)
  | limit + 1, first, job, c => do
    match ← nextKey? first c with
    | none =>
      let c := closing c
      match job.method with
      | some method => return ({ method, params := job.params.join, crq := job.crq.join }, c)
      | none => throw (mismatch c (.missingField "method"))
    | some c =>
      let (key, c) ← readString c
      let (job, c) ← readMember job key c
      readMembers limit false job c

/-- The place behind the bracket of an array that ends at a place. -/
def readListEnd (c : Cursor) : Scan Cursor :=
  let c := skipBlanks c
  match c.rest with
  | [] => .error (faultAt c .endInList)
  | ']' :: _ => .ok (skipChar c)
  | ',' :: _ =>
    let c := skipBlanks (skipChar c)
    .error (faultAt c (if c.rest.head? == some ']' then .trailingComma else .trailingCharacters))
  | _ => .error (faultAt c .trailingCharacters)

/-- The next item of a job that is written as an array. -/
def readListItem {α : Type} (first : Bool) (item : Cursor → Scan (α × Cursor)) (c : Cursor) :
    Scan (Option α × Cursor) := do
  match ← nextItem? first c with
  | none => return (none, skipBlanks c)
  | some c =>
    let (a, c) ← item c
    return (some a, c)

/-- A job that is written as an array, behind its bracket. -/
def readFromList (c : Cursor) : Scan (Job × Cursor) := do
  let (method, c) ← readListItem true readStringField c
  match method with
  | none => throw (mismatch (closing c) (.wrongLength 0 "struct Job with 3 elements"))
  | some method =>
    let (params, c) ← readListItem false readParams c
    let (crq, c) ← if params.isSome then readListItem false readCrq c else pure (none, c)
    return ({ method, params := params.join, crq := crq.join }, ← readListEnd c)

/-- A job at a place. -/
def read (c : Cursor) : Scan (Job × Cursor) :=
  let c := skipBlanks c
  match c.rest with
  | [] => .error (faultAt c .endInValue)
  | '[' :: _ => readFromList (skipChar c)
  | '\x7b' :: _ => readMembers (c.rest.length + 1) true {} (skipChar c)
  | _ => .error (wrongTypeAt "struct Job" c)

/-- The job of a text that holds nothing else. -/
def parse (text : String) : Scan Job := do
  let (job, c) ← read (.ofText text.toList)
  readEnd c
  return job

end Text

end Job

end PolicyEditor
