import SheetRecall.Fault
import SheetRecall.Json.Reader
import SheetRecall.Service.Path
import SheetRecall.Workbook.Decode

/-!
# Requests and responses

What comes in over HTTP and what goes out.  A body is read as JSON before anything else is looked
at.  What goes out must be JSON in the strict sense: an answer with a double that is no decimal
cannot be written, and that is a failure of the service.  The answer to a search has null in its
place.
-/

namespace SheetRecall.Service

/-- The methods of requests. -/
inductive Method where
  | get
  | post
  | delete
  deriving Repr, DecidableEq

/-- The body of a request. -/
inductive Body where
  | absent
  | json (v : Value)
  /-- The body is no JSON, which shows at a position. -/
  | malformed (position : Nat)
  /-- The body is JSON that is not read. -/
  | unreadable

/-- The body with a text. -/
def Body.ofText (text : String) : Body :=
  if text.isEmpty then .absent
  else
    match Text.Encoding.jsonChars? text with
    | none => .unreadable
    | some cs =>
      match Json.read .lenient (String.ofList cs) with
      | .ok v => .json v
      | .error (.malformed left) => .malformed (cs.length - left)
      | .error _ => .unreadable

/-- A file that comes with a request. -/
structure Upload where
  name : String
  file : Workbook.File

/-- What a form has in the place of a file. -/
inductive FilePart where
  | file (upload : Upload)
  /-- A part without a name is a text. -/
  | text (isEmpty : Bool)

/-- The part of a form that a file with a name becomes. -/
def FilePart.ofFile (name : String) (file : Workbook.File) : FilePart :=
  if name.isEmpty then .text file.isEmpty else .file ⟨formName name, file⟩

/-- A request. -/
structure Request where
  method : Method
  path : String
  query : List (String × String) := []
  body : Body := .absent
  filePart : Option FilePart := none
  /-- The form field with the id of the file. -/
  fileId : Option String := none

/-- The value of a query parameter; of several the last one counts. -/
def Request.parameter? (r : Request) (name : String) : Option String :=
  (r.query.reverse.lookup name)

/-- A response. -/
inductive Response where
  | answer (status : Nat) (body : Value)
  /-- The request does not pass its checks. -/
  | invalid (issues : List Schema.Issue)
  /-- The service failed. -/
  | failed (fault : Fault)

namespace Response

/-- A refusal with a reason. -/
def refusal (status : Nat) (detail : String) : Response :=
  .answer status (.map [("detail", .text detail)])

/-- The wording of a fault that is told to the outside: that of the store. -/
def publicText? (fault : Fault) : Option String :=
  match fault with
  | .unusable _ => none
  | fault => fault.message?

/-- The body of a failure, with a word for the kind of fault. -/
def failureBody (fault : Fault) (kind path : String) : Value :=
  .map [("detail", .map ([("message", .text "Internal server error")]
    ++ ((publicText? fault).map fun text => ("error", Value.text text)).toList
    ++ [("error_type", .text kind), ("path", .text (shownPath path))]))]

end Response

/-! ## Strict JSON -/

mutual

/-- Every double in the value is a decimal. -/
def isStrict : Value → Bool
  | .float x => Decimal.isFinite x
  | .list items => areStrict items
  | .map fields => haveStrict fields
  | _ => true
termination_by structural v => v

/-- Every double in the items is a decimal. -/
def areStrict : List Value → Bool
  | [] => true
  | v :: vs => isStrict v && areStrict vs
termination_by structural vs => vs

/-- Every double in the fields is a decimal. -/
def haveStrict : List (String × Value) → Bool
  | [] => true
  | (_, v) :: rest => isStrict v && haveStrict rest
termination_by structural fields => fields

end

mutual

/-- No text in the value holds half a surrogate pair. -/
def isUnbroken : Value → Bool
  | .text s => Text.isWhole s
  | .list items => areUnbroken items
  | .map fields => haveUnbroken fields
  | _ => true
termination_by structural v => v

/-- No text in the items holds half a surrogate pair. -/
def areUnbroken : List Value → Bool
  | [] => true
  | v :: vs => isUnbroken v && areUnbroken vs
termination_by structural vs => vs

/-- No key and no text in the fields holds half a surrogate pair. -/
def haveUnbroken : List (String × Value) → Bool
  | [] => true
  | (key, v) :: rest => Text.isWhole key && isUnbroken v && haveUnbroken rest
termination_by structural fields => fields

end

/-- The response as it can be written. -/
def Response.written : Response → Response
  | .answer status body => if isStrict body then .answer status body else .failed (.unusable none)
  | response => response

/-! ## JSON with nulls -/

mutual

/-- The value with null for every double that is no decimal. -/
def withNulls : Value → Value
  | .float x => if Decimal.isFinite x then .float x else .null
  | .list items => .list (itemsWithNulls items)
  | .map fields => .map (fieldsWithNulls fields)
  | v => v
termination_by structural v => v

/-- The items with null for every double that is no decimal. -/
def itemsWithNulls : List Value → List Value
  | [] => []
  | v :: vs => withNulls v :: itemsWithNulls vs
termination_by structural vs => vs

/-- The fields with null for every double that is no decimal. -/
def fieldsWithNulls : List (String × Value) → List (String × Value)
  | [] => []
  | (key, v) :: rest => (key, withNulls v) :: fieldsWithNulls rest
termination_by structural fields => fields

end

mutual

/-- How many values stand within each other. -/
def nesting : Value → Nat
  | .list items => itemsNesting items + 1
  | .map fields => fieldsNesting fields + 1
  | _ => 1
termination_by structural v => v

/-- How many values stand within each other in one of the items. -/
def itemsNesting : List Value → Nat
  | [] => 0
  | v :: vs => max (nesting v) (itemsNesting vs)
termination_by structural vs => vs

/-- How many values stand within each other in one of the fields. -/
def fieldsNesting : List (String × Value) → Nat
  | [] => 0
  | (_, v) :: rest => max (nesting v) (fieldsNesting rest)
termination_by structural fields => fields

end

/-- No more values than these may stand within each other in a payload that is answered. -/
def maxNesting : Nat := 255

/-! ## Checking bodies -/

/-- The part of a value at the end of a path. -/
def valueAt : List Schema.Step → Value → Value
  | .field name :: rest, .map fields => valueAt rest ((Entries.get? fields name).getD .null)
  | .item i :: rest, .list items => valueAt rest ((items[i.toNat]?).getD .null)
  | _, v => v

/-- The value that an issue is about; for something absent, what it is absent from. -/
def inputOf (body : Value) (issue : Schema.Issue) : Value :=
  match issue.problem with
  | .absent => valueAt issue.path.dropLast body
  | _ => valueAt issue.path body

/-- The part of a request that the body is. -/
def bodyStep : Schema.Step := .field "body"

/-- The step can be told. -/
def isUnbrokenStep : Schema.Step → Bool
  | .field name => Text.isWhole name
  | .item _ => true

/-- The response to a body with issues; the issues are told with the values that they are about. -/
def issueResponse (body : Value) (issues : List Schema.Issue) : Response :=
  if !issues.all fun issue => isStrict (inputOf body issue) then .failed (.unusable none)
  else if !issues.all fun issue =>
      issue.path.all isUnbrokenStep && isUnbroken (inputOf body issue) then
    .failed .brokenAnswer
  else .invalid (issues.map fun issue => { issue with path := bodyStep :: issue.path })

/-- The body of a request, checked. -/
def checkBody (check : Fields → Schema.Checked α) : Body → Except Response α
  | .json (.map fields) => (check fields).mapError (issueResponse (.map fields))
  | .json v => .error (issueResponse v [⟨.noAttributes, []⟩])
  | _ => .error (.invalid [⟨.absent, [bodyStep]⟩])

end SheetRecall.Service
