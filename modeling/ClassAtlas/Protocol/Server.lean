/-
The server: messages in, messages out. The first request must be the greeting; after the request to
shut down nothing else is served, and the word to exit ends the talk. So does a message that is
none, after it has been refused.

A request is refused for its method first, then for the moment at which it comes, then for its id,
and last for its parameters. What is wrong with a message that asks for no answer is not told: it
has no effect.
-/
import ClassAtlas.Json.Printer
import ClassAtlas.Protocol.Method
import ClassAtlas.Protocol.Reply

namespace ClassAtlas.Protocol

/-- How far the talk with the editor has come. -/
inductive Phase
  | fresh
  | active
  | shutDown
  | ended
  deriving DecidableEq, Repr

/-- A server: its session, and the ids of the requests for definitions that are not answered yet,
by the numbers the session knows them by. -/
structure Server where
  phase : Phase
  session : Session
  asked : List (Nat × Id)
  next : Nat

/-- What a message leads to: the server and the files after it, its events, and the messages that
go out. -/
structure Exchange where
  server : Server
  files : Files
  events : List Event
  sent : List Json

namespace Request

/-- The answer to a request, if it asks for one. -/
def answer (r : Request) (result : Json) : List Json :=
  (r.id.map (answerMessage · result)).toList

/-- The refusal of a request, if it asks for an answer. -/
def refuse (r : Request) (cause : Refusal) : List Json :=
  (r.id.map (refusalMessage · cause)).toList

/-- Reads the parameters of a request. -/
def read {α : Type} (r : Request) (readParams : Json → Except Json.Mismatch α) :
    Except Refusal α :=
  match r.params with
  | none => .error .missingParams
  | some v => (readParams v).mapError .badParams

end Request

namespace Server

/-- A server before its first message. -/
def new (session : Session) : Server :=
  ⟨.fresh, session, [], 0⟩

/-- Nothing happens but that some messages go out. -/
def reply (s : Server) (fs : Files) (sent : List Json) : Exchange :=
  ⟨s, fs, [], sent⟩

/-- Takes over what a step of the session comes to: notices and answers go out. -/
def follow (s : Server) (before : Exchange) (r : Session.Reaction) : Exchange :=
  let answers := r.answers.filterMap fun a =>
    (s.asked.lookup a.number).map fun id =>
      answerMessage id ((a.declaration.map declarationJson).getD .null)
  let asked := s.asked.filter fun (n, _) => !r.answers.any (·.number == n)
  { server := { s with session := r.session, asked }
    files := r.files
    events := before.events ++ r.events
    sent := before.sent ++ r.notices.map noticeMessage ++ answers }

/-! ## Beginning and end -/

/-- Takes the greeting, which comes once. -/
def greet (s : Server) (fs : Files) (r : Request) : Exchange :=
  match s.phase, r.id with
  | .fresh, none => s.reply fs []
  | .fresh, some _ =>
    match r.read greetingOf with
    | .error cause => s.reply fs (r.refuse cause)
    | .ok greeting =>
      let (session, events) := s.session.greet greeting
      ⟨{ s with phase := .active, session }, fs, events, r.answer abilities⟩
  | _, _ => s.reply fs (r.refuse .invalidRequest)

/-- Takes a request that is served only between the greeting and the request to shut down. -/
def whileActive (s : Server) (fs : Files) (r : Request)
    (serve : Server → Files → Request → Exchange) : Exchange :=
  match s.phase with
  | .fresh => s.reply fs (r.refuse .notGreeted)
  | .active => serve s fs r
  | .shutDown | .ended => s.reply fs (r.refuse .invalidRequest)

/-- Takes the request to shut down, which has no parameters. -/
def shutDown (s : Server) (fs : Files) (r : Request) : Exchange :=
  let sent := match r.params with
    | none => r.answer .null
    | some v => r.refuse (.unwantedParams v.print)
  { s with phase := .shutDown }.reply fs sent

/-! ## Serving -/

/-- Takes what the editor tells. -/
def hear (s : Server) (fs : Files) (r : Request) : Notification → Exchange
  | .greeted =>
    match r.read greetedOf with
    | .error _ => s.reply fs []
    | .ok _ =>
      let began := s.follow (s.reply fs []) (s.session.begin fs)
      began.server.follow began (began.server.session.runBuild began.files)
  | .opened =>
    match r.read openedOf with
    | .error _ => s.reply fs []
    | .ok (uri, document) =>
      let (session, events) := s.session.openDocument uri document
      ⟨{ s with session }, fs, events, []⟩
  | .changed =>
    match r.read changedOf with
    | .error _ => s.reply fs []
    | .ok (uri, texts) => { s with session := s.session.changeDocument uri texts }.reply fs []
  | .closed =>
    match r.read closedOf with
    | .error _ => s.reply fs []
    | .ok uri =>
      let (session, events) := s.session.closeDocument uri
      ⟨{ s with session }, fs, events, []⟩
  | .unheeded => s.reply fs []

/-- Takes a message that tells something; one that asks for an answer tells nothing. -/
def notify (n : Notification) (s : Server) (fs : Files) (r : Request) : Exchange :=
  match r.id with
  | none => s.hear fs r n
  | some _ => s.reply fs (r.refuse .invalidRequest)

/-- Takes a request for a definition. -/
def define (s : Server) (fs : Files) (r : Request) : Exchange :=
  match r.id, r.read askedOf with
  | none, _ => s.reply fs []
  | some _, .error cause => s.reply fs (r.refuse cause)
  | some id, .ok (uri, position) =>
    let s := { s with asked := s.asked ++ [(s.next, id)], next := s.next + 1 }
    s.follow (s.reply fs []) (s.session.ask fs (s.next - 1) uri position)

/-- Refuses a request that is not served. -/
def decline (params : Json.Shape) (s : Server) (fs : Files) (r : Request) : Exchange :=
  match r.read params.read with
  | .error cause => s.reply fs (r.refuse cause)
  | .ok _ => s.reply fs (r.refuse .unserved)

/-! ## Messages -/

/-- Takes a request of a known method. -/
def serve (s : Server) (fs : Files) (r : Request) : Method → Exchange
  | .greeting => s.greet fs r
  | .shutDown => s.whileActive fs r shutDown
  | .exit => { s with phase := .ended }.reply fs []
  | .cancel => s.reply fs (r.refuse .invalidRequest)
  | .notification n => s.whileActive fs r (notify n)
  | .definition => s.whileActive fs r define
  | .unserved params => s.whileActive fs r (decline params)

/-- Takes a request. -/
def take (s : Server) (fs : Files) (r : Request) : Exchange :=
  match Method.ofName? r.method with
  | some method => s.serve fs r method
  | none =>
    if Method.optionalStart.toList.isPrefixOf r.method.toList then s.reply fs []
    else s.reply fs (r.refuse (.unknownMethod r.method))

/-- The talk ends with the refusal of something that is no message. -/
def hangUp (s : Server) (fs : Files) (cause : Refusal) : Exchange :=
  { s with phase := .ended }.reply fs [refusalMessage .null cause]

/-- Takes one message. -/
def receive (s : Server) (fs : Files) (v : Json) : Exchange :=
  if s.phase = .ended then s.reply fs []
  else match Message.ofJson? v with
  | none => s.hangUp fs .invalidRequest
  | some .response => s.reply fs []
  | some (.request r) => s.take fs r

end Server

end ClassAtlas.Protocol
