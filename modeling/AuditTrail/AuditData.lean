import AuditTrail.Value.View
import AuditTrail.Value.Debug

/-!
# Auditable data

What one audit record is about: a request, a response or an object of the caller's own. Requests
and responses are containers with a fixed set of fields, of which absent ones are left out.
-/

namespace AuditTrail

/-- What an inbound or outbound request looked like. -/
structure Request where
  parts : List Value
  method : Option String
  uri : Option String
  headers : Entries String
  /-- Previews of the attachments. -/
  attachments : List String
  deriving Repr, Inhabited

namespace Request

/-- The fields of a request. A missing method or address and an empty list of attachments have
none. -/
def fields (request : Request) : Fields :=
  [("request", Value.list request.parts)] ++
    (request.method.toList.map fun s ↦ ("method", Value.text s)) ++
    (request.uri.toList.map fun s ↦ ("uri", Value.text s)) ++
    [("headers", Value.ofTextMap request.headers)] ++
    (if request.attachments = [] then []
      else [("attachmentTextList", Value.ofTexts request.attachments)])

/-- The type name of requests. -/
def typeName : String :=
  "RequestAuditData"

/-- The diagnostic form of a request. -/
def debugText (objects : ObjectTable) (request : Request) : String :=
  typeName ++ " \x7b request: " ++
    Value.bracketed "[" (Value.debugItems objects request.parts) "]" ++
    ", method: " ++ Value.debugText? (request.method.map Text.quote) ++
    ", uri: " ++ Value.debugText? (request.uri.map Text.quote) ++
    ", headers: " ++ Value.bracketed "\x7b"
      (request.headers.map fun entry ↦ Text.quote entry.1 ++ ": " ++ Text.quote entry.2) "\x7d" ++
    ", attachment_text_list: " ++ Value.bracketed "[" (request.attachments.map Text.quote) "]" ++
    " \x7d"

end Request

namespace Response

/-- The fields of a response; a missing response object is null. -/
def fields (response : Option Value) : Fields :=
  [("response", response.getD .null)]

/-- The type name of responses. -/
def typeName : String :=
  "ResponseAuditData"

/-- The diagnostic form of a response. -/
def debugText (objects : ObjectTable) (response : Option Value) : String :=
  typeName ++ " \x7b response: " ++
    Value.debugText? (response.map (Value.debugText objects)) ++ " \x7d"

end Response

/-- The object graph of one audit record. -/
inductive AuditData where
  | request (request : Request)
  | response (response : Option Value)
  | custom (id : ObjectId)
  deriving Repr, Inhabited

namespace AuditData

/-- The type name that diagnostics show. -/
def typeName (objects : ObjectTable) : AuditData → String
  | request _ => Request.typeName
  | response _ => Response.typeName
  | custom id => (objects id).typeName

/-- The value that stands for the data. -/
def toValue : AuditData → Value
  | request r => .record Request.typeName r.fields
  | response r => .record Response.typeName (Response.fields r)
  | custom id => .object id

/-- The data with `limit` applied to the request parts or to the response object, which it may
remove. Custom data stays as it is. -/
def limitPayloads (limit : List Value → List Value) : AuditData → AuditData
  | request r => request { r with parts := limit r.parts }
  | response r => response (limit r.toList).head?
  | custom id => custom id

/-- The text that the data writes for itself. Containers write the fields whose names pass; custom
data writes what its hook writes, if it has one. -/
def ownText (objects : ObjectTable) (keep : String → Bool) : AuditData → Option Written
  | custom id => (objects id).hook.map Object.hookText
  | data => some (data.toValue.written objects keep)

/-- The described texts of the fields whose names pass. -/
def describeFields (objects : ObjectTable) (keep : String → Bool) (fields : Fields) :
    List (String × String) :=
  (fields.keeping keep).map fun field ↦ (field.1, field.2.describedText objects keep)

/-- The flat description of the data, without the names that do not pass. -/
def describe (objects : ObjectTable) (keep : String → Bool) : AuditData → List (String × String)
  | request r => describeFields objects keep r.fields
  | response r => describeFields objects keep (Response.fields r)
  | custom id => (objects id).describe keep

/-- The diagnostic form of the data. -/
def debugText (objects : ObjectTable) : AuditData → String
  | request r => "Request(" ++ r.debugText objects ++ ")"
  | response r => "Response(" ++ Response.debugText objects r ++ ")"
  | custom id => "Custom(" ++ (objects id).typeName ++ ")"

end AuditData

end AuditTrail
