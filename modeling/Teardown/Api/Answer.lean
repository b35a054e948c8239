/-
# Answers of a cluster

A cluster answers a call with a number and a body.  A number from 400 to 599 is a refusal; the
body says more about it, and where it does not, the refusal is made of the number and the body
itself.  Any other answer has to tell about an object of the right kind, or about the success of
the call.

An answer that tells of neither is a fault of its own, since it is not known then what became of
the call.  What an object says beyond its kind is not looked at, but it has to have the outline of
such an object.

* §1-2  refusals.  A body that tells of none is kept as the wording of one that is made up.
* §3  the outlines of what a cluster may answer instead.
* §4  answers, and what they come to.
-/
import Teardown.Api.Outline
import Teardown.Fault
import Teardown.Json.Reader
import Teardown.Json.Shape

namespace Teardown

/-! ## 1. Numbers -/

/-- The numbers of refusals with their usual wordings. -/
def refusalWords : List (Nat × String) :=
  [(400, "Bad Request"), (401, "Unauthorized"), (402, "Payment Required"), (403, "Forbidden"),
   (404, "Not Found"), (405, "Method Not Allowed"), (406, "Not Acceptable"),
   (407, "Proxy Authentication Required"), (408, "Request Timeout"), (409, "Conflict"),
   (410, "Gone"), (411, "Length Required"), (412, "Precondition Failed"),
   (413, "Payload Too Large"), (414, "URI Too Long"), (415, "Unsupported Media Type"),
   (416, "Range Not Satisfiable"), (417, "Expectation Failed"), (418, "I'm a teapot"),
   (421, "Misdirected Request"), (422, "Unprocessable Entity"), (423, "Locked"),
   (424, "Failed Dependency"), (425, "Too Early"), (426, "Upgrade Required"),
   (428, "Precondition Required"), (429, "Too Many Requests"),
   (431, "Request Header Fields Too Large"), (451, "Unavailable For Legal Reasons"),
   (500, "Internal Server Error"), (501, "Not Implemented"), (502, "Bad Gateway"),
   (503, "Service Unavailable"), (504, "Gateway Timeout"), (505, "HTTP Version Not Supported"),
   (506, "Variant Also Negotiates"), (507, "Insufficient Storage"), (508, "Loop Detected"),
   (510, "Not Extended"), (511, "Network Authentication Required")]

def numberText (number : Nat) : String :=
  toString number ++ " " ++ (refusalWords.lookup number).getD "<unknown status code>"

/-! ## 2. Refusals -/

namespace Refusal

/-- What the body of a refusal says. -/
def schema : Schema :=
  .record "ErrorResponse"
    (.field "status" true .text <|
     .field "message" false .text <|
     .field "reason" false .text <|
     .field "code" true (.natural 65536) .none)

def ofDatum (d : Datum) : Refusal where
  status := d.textAt "status"
  message := d.textAt "message"
  reason := d.textAt "reason"
  code := ((d.field? "code").bind Datum.natural?).getD 0

/-- The refusal that a body tells of. -/
def ofBody? (body : String) : Option Refusal :=
  (Json.asWritten? body).bind fun value =>
    (Json.read schema value).toOption.map ofDatum

/-- The refusal of a body that does not tell of one. -/
def ofUnknown (number : Nat) (body : String) : Refusal where
  status := numberText number
  message := Text.quote body
  reason := "Failed to parse error data"
  code := number

end Refusal

/-! ## 3. Objects -/

/-- The success or failure of a call, as a body tells of it. -/
def reportSchema : Schema :=
  let details : Schema := .record "StatusDetails"
    (.field "name" false .text <|
     .field "group" false .text <|
     .field "kind" false .text <|
     .field "uid" false .text <|
     .field "causes" false (.list (.record "StatusCause"
       (.field "reason" false .text <|
        .field "message" false .text <|
        .field "field" false .text .none))) <|
     .field "retryAfterSeconds" false (.natural 0x100000000) .none)
  .record "Status"
    (.field "status" false (.optional (.word ["Success", "Failure"])) <|
     .field "code" false (.natural 65536) <|
     .field "message" false .text <|
     .field "reason" false .text <|
     .field "details" false (.optional details) .none)

/-- What every object says about itself. -/
def metadataOutline : Outline :=
  let managed : Outline := .object
    (.ofNames .text ["apiVersion", "fieldsType", "manager", "operation", "subresource"] <|
     .part "fieldsV1" .anything <|
     .part "time" .time .none)
  let owner : Outline := .object
    (.ofNames .text ["apiVersion", "kind", "name", "uid"] <|
     .ofNames .flag ["blockOwnerDeletion", "controller"] .none)
  .object
    (.ofNames .text ["generateName", "name", "namespace", "resourceVersion", "selfLink", "uid"] <|
     .ofNames (.table .text) ["annotations", "labels"] <|
     .ofNames .time ["creationTimestamp", "deletionTimestamp"] <|
     .ofNames .whole ["deletionGracePeriodSeconds", "generation"] <|
     .part "finalizers" (.list .text) <|
     .part "managedFields" (.list managed) <|
     .part "ownerReferences" (.list owner) .none)

def accountOutline : Outline :=
  let reference : Outline := .object
    (.ofNames .text ["apiVersion", "fieldPath", "kind", "name", "namespace", "resourceVersion",
      "uid"] .none)
  .object
    (.part "apiVersion" (.word "v1") <|
     .part "kind" (.word "ServiceAccount") <|
     .part "automountServiceAccountToken" .flag <|
     .part "imagePullSecrets" (.list (.object (.part "name" .text .none))) <|
     .part "metadata" metadataOutline <|
     .part "secrets" (.list reference) .none)

/-- Whether a body tells about a service account, or about the success or failure of a call. -/
def tellsOfAccount (body : String) : Bool :=
  match Json.asWritten? body with
  | none => false
  | some value =>
    match value.tidy.get? "kind" with
    | some (.text "Status") => (Json.read reportSchema value).toOption.isSome
    | _ => accountOutline.fits value

/-! ## 4. Answers -/

/-- An answer to a call. -/
structure ApiAnswer where
  number : Nat
  body : String
deriving DecidableEq, Inhabited

/-- What an answer about a service account comes to. -/
def ApiAnswer.result (a : ApiAnswer) : Except ClusterFault Unit :=
  if 400 ≤ a.number ∧ a.number < 600 then
    .error (.refused ((Refusal.ofBody? a.body).getD (.ofUnknown a.number a.body)))
  else if tellsOfAccount a.body then .ok ()
  else .error .unusable

/-! ## Worked examples -/

example : numberText 404 = "404 Not Found" := by decide +kernel

example : (ApiAnswer.result ⟨409, "no"⟩) =
    .error (.refused ⟨"409 Conflict", "\"no\"", "Failed to parse error data", 409⟩) := by
  rfl

end Teardown
