import ChatTelemetry.Json.Printer
import ChatTelemetry.Log.Event
import ChatTelemetry.Storage.Failure
import ChatTelemetry.Storage.Network
import ChatTelemetry.Storage.ObjectName
import ChatTelemetry.Text.Quoted
import ChatTelemetry.Url.Parser
import ChatTelemetry.Url.Query
/-!
Content kept as objects of a bucket, one request for each.
-/

namespace ChatTelemetry.Storage

open Json (Value)

/-- A bucket of a storage service, and the folder in it that objects go to. -/
structure Bucket where
  endpoint : Url
  name : String
  folder : String
  token : Option String
deriving DecidableEq, Repr, Inhabited

namespace Bucket

/-- The service that is asked where no endpoint is given. -/
def defaultEndpoint : Url where
  scheme := "https".toList
  authority := some { host := some (.domain "storage.googleapis.com".toList) }
  path := ['/']

/-- A bucket; its folder is given with or without slashes around it. -/
def make (name folder : String) (endpoint : Option Url) (token : Option String) :
    Except UploadError Bucket :=
  if name = "" then .error (.invalidDestination ("gs:///" ++ folder) "missing bucket name")
  else
    let endpoint := endpoint.getD defaultEndpoint
    if endpoint.canBeBase then
      .ok ⟨endpoint, name, .ofList (Text.strip (· == '/') folder.toList), token⟩
    else .error (.invalidDestination endpoint.text "endpoint must be an http(s) URL")

def objectText (b : Bucket) (name : String) : String :=
  if b.folder = "" then name else b.folder ++ "/" ++ name

def locator (b : Bucket) (object : String) : String :=
  "gs://" ++ b.name ++ "/" ++ object

def uploadUrl (b : Bucket) (object : String) : Url :=
  let path := ["upload", "storage", "v1", "b", b.name, "o"].map String.toList
  { b.endpoint.addSegments path with
    query := some (Url.formQuery
      [("uploadType".toList, "media".toList), ("name".toList, object.toList)]) }

/-- Whether a token can stand in a header: it has no controls but tabs. -/
def isHeaderText (token : String) : Bool :=
  token.toList.all fun c => c == '\t' || (0x20 ≤ c.toNat && c.toNat ≠ 0x7f)

def request (b : Bucket) (object : String) (v : Value) : Request :=
  ⟨b.uploadUrl object, b.token.map ("Bearer " ++ ·), some v.text⟩

/--
What comes of an upload: the request that was sent, those that the client went on to, the locator or
why there is none, the log.
-/
structure Outcome where
  sent : Option Request
  followed : List Request
  result : Except UploadError String
  log : List Log.Event

def Outcome.requests (o : Outcome) : List Request :=
  o.sent.toList ++ o.followed

/-- Posts the compact text of a value; any answer but a success is a failure. -/
def upload (b : Bucket) (name : String) (v : Value) (network : Network) : Outcome :=
  if isObjectName name then
    if (b.token.map isHeaderText).getD true then
      let object := b.objectText name
      let request := b.request object v
      let transfer := network.send request
      match transfer.answer with
      | .error reason => ⟨some request, transfer.followed, .error (.transport reason), []⟩
      | .ok response =>
        if 200 ≤ response.status && response.status < 300 then
          ⟨some request, transfer.followed, .ok (b.locator object),
            [⟨.debug, "promptwire_upload::gcs", "payload uploaded",
              [("bucket", .shown b.name), ("object", .shown object)]⟩]⟩
        else
          ⟨some request, transfer.followed, .error (.status response.status response.body), []⟩
    else ⟨none, [], .error (.transport network.headerFault), []⟩
  else ⟨none, [], .error (.invalidName name), []⟩

/-- The bucket in diagnostics; the token is left out. -/
def debugText (b : Bucket) : String :=
  "GcsUploader \x7b endpoint: " ++ Text.quoted b.endpoint.text ++
    ", bucket: " ++ Text.quoted b.name ++ ", prefix: " ++ Text.quoted b.folder ++ ", .. \x7d"

end Bucket
end ChatTelemetry.Storage
