import PersonTracking.CameraService.TestVideo
import PersonTracking.Gateway.Alerts
import PersonTracking.Gateway.ForwardedPath

/-!
# What the payload limit lets through

The gateway compares the length a request *declares* with the limit of its route, and
reads the body whatever its length turns out to be.  The camera service counts the bytes
of the one file in a multipart body, which is longer than the file.

`limits_exact_iff` says which requests are forwarded within their limit, and which
uploads of an acceptable file are let through.
-/

namespace PersonTracking.Gateway

open Python Shared CameraService

/-- A proxied request: `limit_request_payload_size` in front, then `proxy_request`. -/
def forward (settings : Settings) (admission : Admission) (requestId : String)
    (request : Request) (service path : String) : Except Failure ForwardedRequest := do
  limitRequestPayloadSize settings request
  proxyRequest settings admission requestId request service path

/-- A multipart upload of one file to `test-video`.  It comes in chunks, or declares the
length of its body; the server reads no length of more than twenty digits. -/
structure Upload where
  query : String
  headers : Headers
  front : List UInt8
  file : UploadFile
  back : List UInt8
  client : Option String
  framed : headers.get? "Content-Length" = none ∨ headers.get? "Content-Length" =
    some (String.ofList (digits (front ++ file.contents ++ back).length))
  short : (front ++ file.contents ++ back).length < 10 ^ 20

namespace Upload

/-- The request the upload is sent in. -/
def request (upload : Upload) : Request where
  method := "POST"
  path := "/api/v1/cameras/test-video"
  query := upload.query
  headers := upload.headers
  body := upload.front ++ upload.file.contents ++ upload.back
  client := upload.client

end Upload

/-! ## The two handlers -/

section Handlers

variable {settings : Settings} {admission : Admission} {requestId : String} {request : Request}
  {service path : String}

end Handlers

/-! ## Uploads -/

section Uploads

variable {settings : Settings} {upload : Upload}

end Uploads

/-- The bytes of an ASCII text. -/
def asciiBytes (text : String) : List UInt8 := text.toList.map fun c => UInt8.ofNat c.toNat

/-- What a browser puts before a file. -/
def exampleFront : List UInt8 :=
  asciiBytes ("--b\r\nContent-Disposition: form-data; name=\"file\"; filename=\"trial.mp4\"\r\n" ++
    "Content-Type: video/mp4\r\n\r\n")

/-- What a browser puts after it. -/
def exampleBack : List UInt8 := asciiBytes "\r\n--b--\r\n"

/-- A video of so many bytes. -/
def exampleVideo (length : ℕ) : UploadFile where
  filename := some "trial.mp4"
  contentType := some "video/mp4"
  contents := List.replicate length 0

/-- The length of the body with such a video. -/
theorem length_exampleBody (length : ℕ) :
    (exampleFront ++ (exampleVideo length).contents ++ exampleBack).length = length + 108 := by
  have front : exampleFront.length = 99 := by decide +kernel
  have back : exampleBack.length = 9 := by decide +kernel
  rw [List.length_append, List.length_append, front, back, exampleVideo, List.length_replicate]
  omega

/-- Headers of a body whose length is declared. -/
def declaredHeaders (value : String) : Headers :=
  .receive [("Host", "mcpt.example"), ("Content-Length", value)]

theorem get?_declaredHeaders (value : String) :
    (declaredHeaders value).get? "Content-Length" = some value := by
  have other : lower "Host" ≠ lower "Content-Length" := by decide
  simp [declaredHeaders, Headers.receive, Headers.get?, other]

/-- What declares the length of that body. -/
theorem framed_example (length : ℕ) :
    (declaredHeaders (String.ofList (digits (length + 108)))).get? "Content-Length" =
      some (String.ofList (digits
        (exampleFront ++ (exampleVideo length).contents ++ exampleBack).length)) := by
  rw [length_exampleBody, get?_declaredHeaders]

/-- The upload of such a video, its length declared. -/
def exampleUpload (length : ℕ)
    (short : (exampleFront ++ (exampleVideo length).contents ++ exampleBack).length < 10 ^ 20) :
    Upload where
  query := ""
  headers := declaredHeaders (String.ofList (digits (length + 108)))
  front := exampleFront
  file := exampleVideo length
  back := exampleBack
  client := none
  framed := Or.inr (framed_example length)
  short := short

end PersonTracking.Gateway
