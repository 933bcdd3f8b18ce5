import ShaderDiagnostics.Json.Decoder

/-!
# Messages of the editor

A message is a request, a response or a notification, whichever it fits first. Requests are told apart by
numbers or texts.
-/

namespace ShaderDiagnostics

/-- What a request goes by. -/
inductive RequestId where
  /-- A number. -/
  | number (n : Int)
  /-- A text. -/
  | text (s : String)
  deriving DecidableEq, Repr

namespace RequestId

open Json (Decoder)

/-- The id as JSON. -/
def toJson : RequestId → Json
  | number n => .int n
  | text s => .str s

/-- Reads an id. -/
def decode : Decoder RequestId :=
  Decoder.either "IdRepr" (fun j => (Decoder.i32 j).map number)
    fun j => (Decoder.string j).map text

end RequestId

/-- Messages of the editor. -/
inductive Incoming where
  /-- The editor asks for something. -/
  | request (id : RequestId) (method : String) (params : Json)
  /-- The editor answers: with a result, or with the reason why there is none, or with nothing. -/
  | response (id : RequestId) (result : Option Json) (error : Option String)
  /-- The editor tells something. -/
  | notification (method : String) (params : Json)

namespace Incoming

open Json (Decoder RecordForm)

/-- A message under construction. -/
structure Draft where
  /-- The id. -/
  id : RequestId
  /-- The method. -/
  method : String
  /-- The parameters. -/
  params : Json
  /-- The result. -/
  result : Option Json
  /-- The message of an error. -/
  error : Option String

/-- Nothing read yet. -/
def Draft.blank : Draft := ⟨.number 0, "", .null, none, none⟩

/-- Reads why there is no result. -/
def errorMessage : Decoder String :=
  (RecordForm.mk "ResponseError" [
    .required "code" Decoder.i32 fun _ s => s,
    .required "message" Decoder.string fun s _ => s,
    .optional "data" Decoder.any fun _ s => s] true).decode ""

/-- Reads a request. -/
def decodeRequest : Decoder Incoming := fun j =>
  ((RecordForm.mk "Request" [
    .required "id" RequestId.decode fun i d => { d with id := i },
    .required "method" Decoder.string fun s d => { d with method := s },
    .defaulted "params" Decoder.any fun p d => { d with params := p }] true).decode Draft.blank j).map
    fun d => request d.id d.method d.params

/-- Reads a response. -/
def decodeResponse : Decoder Incoming := fun j =>
  ((RecordForm.mk "Response" [
    .required "id" RequestId.decode fun i d => { d with id := i },
    .optional "result" Decoder.any fun r d => { d with result := r },
    .optional "error" errorMessage fun e d => { d with error := e }] true).decode Draft.blank j).map
    fun d => response d.id d.result d.error

/-- Reads a notification. -/
def decodeNotification : Decoder Incoming := fun j =>
  ((RecordForm.mk "Notification" [
    .required "method" Decoder.string fun s d => { d with method := s },
    .defaulted "params" Decoder.any fun p d => { d with params := p }] true).decode Draft.blank j).map
    fun d => notification d.method d.params

/-- Reads a message. -/
def decode : Decoder Incoming :=
  Decoder.either "Message" decodeRequest (Decoder.either "Message" decodeResponse decodeNotification)

end Incoming

end ShaderDiagnostics
