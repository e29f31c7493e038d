/-
The methods that the server knows, by the names that messages give them.
-/
import ClassAtlas.Protocol.Unserved

namespace ClassAtlas.Protocol

/-- What a message tells that asks for no answer: that the greeting is over, that a document was
opened, changed or closed, or something of no concern here. -/
inductive Notification
  | greeted
  | opened
  | changed
  | closed
  | unheeded
  deriving DecidableEq, Repr

/-- A method: the beginning of the talk, the two steps of its end, taking back a request, telling
something, asking for a definition, or asking for what is not served. -/
inductive Method
  | greeting
  | shutDown
  | exit
  | cancel
  | notification (n : Notification)
  | definition
  | unserved (params : Json.Shape)

namespace Method

/-- The methods that begin and end the talk, and that which takes back a request. -/
def ofTalk : List (String × Method) :=
  [("initialize", .greeting), ("shutdown", .shutDown), ("exit", .exit),
    ("$/cancelRequest", .cancel)]

/-- The names of notifications that are of no concern. -/
def unheededNames : List String :=
  ["textDocument/willSave", "textDocument/didSave", "workspace/didChangeConfiguration",
    "workspace/didChangeWorkspaceFolders", "workspace/didChangeWatchedFiles",
    "workspace/didCreateFiles", "workspace/didRenameFiles", "workspace/didDeleteFiles"]

/-- The notifications. -/
def notifications : List (String × Notification) :=
  [("initialized", .greeted), ("textDocument/didOpen", .opened),
    ("textDocument/didChange", .changed), ("textDocument/didClose", .closed)] ++
    unheededNames.map (·, .unheeded)

/-- All methods. -/
def all : List (String × Method) :=
  ofTalk ++ notifications.map (fun (name, n) => (name, .notification n)) ++
    [("textDocument/definition", .definition)] ++
    Unserved.all.map (fun (name, params) => (name, .unserved params))

/-- The method with a name. -/
def ofName? (name : String) : Option Method :=
  all.lookup name

/-- How the names of methods begin that a server need not know. -/
def optionalStart : String := "$/"

end Method

end ClassAtlas.Protocol
