import HouseStyle.Server.Session
import HouseStyle.Text.Number

/-!
# Messages of the language server

Reading requests from JSON and writing answers as JSON. A member that is missing, or null, has the plainest value of its
type; a member of another type makes the whole request unreadable.
-/

namespace HouseStyle.Server.Message

/-! ## Reading -/

/-- The value itself, if it is an object or stands for an empty one. -/
def object? : Json → Option Json
  | .object members => some (.object members)
  | .null => some (.object [])
  | _ => none

/-- A text. -/
def text? : Json → Option Text
  | .string t => some t
  | .null => some []
  | _ => none

/-- An integer between two bounds. -/
def integer? (lo hi : Int) : Json → Option Int
  | .number m e => if e = 0 && lo ≤ m && m ≤ hi then some m else none
  | .null => some 0
  | _ => none

/-- A signed integer of thirty-two bits. -/
def int32? : Json → Option Int := integer? (-2147483648) 2147483647

/-- An unsigned integer of thirty-two bits. -/
def uint32? (j : Json) : Option Nat := (integer? 0 maxNumber j).map (·.toNat)

/-- A value that may be left out. -/
def optional? (read : Json → Option α) (j : Json) : Option (Option α) :=
  if j.isNull then some none else (read j).map some

/-- A list. -/
def list? (read : Json → Option α) : Json → Option (List α)
  | .array items => items.mapM read
  | .null => some []
  | _ => none

/-- A place in a document. -/
def point? (j : Json) : Option Point := do
  let j ← object? j
  return ⟨← uint32? (j.get "line"), ← uint32? (j.get "character")⟩

/-- A stretch of a document. -/
def range? (j : Json) : Option Range := do
  let j ← object? j
  return ⟨← point? (j.get "start"), ← point? (j.get "end")⟩

/-- The URI of the document that a request is about. -/
def documentUri? (j : Json) : Option Text := do
  let j ← object? j
  let doc ← object? (j.get "textDocument")
  text? (doc.get "uri")

/-- A code, which is a text or a number. -/
def code? : Json → Option ProblemCode
  | .string t => some (.text t)
  | j => (int32? j).map .number

/-! ## Writing -/

/-- An object with these members. -/
def obj (members : List (String × Json)) : Json := .object (members.map fun (n, j) => (Text.ofString n, j))

/-- A place in a document. -/
def ofPoint (p : Point) : Json := obj [("line", .nat p.line), ("character", .nat p.character)]

/-- A stretch of a document. -/
def ofRange (r : Range) : Json := obj [("start", ofPoint r.start), ("end", ofPoint r.stop)]

/-- The member, unless its value is null. -/
def unlessNull (name : String) (j : Json) : List (String × Json) := if j.isNull then [] else [(name, j)]

/-- The member, unless its list is empty. -/
def unlessEmpty (name : String) (items : List Json) : List (String × Json) :=
  if items.isEmpty then [] else [(name, .array items)]

/-- A code; one that was lost is null. -/
def ofCode : ProblemCode → Json
  | .text t => .string t
  | .number n => .int n
  | .blank => .null

/-! ## Problems that an editor shows -/

/-- A further place that belongs to a problem. -/
def related? (j : Json) : Option Json := do
  let j ← object? j
  let location ← object? (j.get "location")
  let uri ← text? (location.get "uri")
  let range ← range? (location.get "range")
  let message ← text? (j.get "message")
  return obj [("location", obj [("uri", .string uri), ("range", ofRange range)]), ("message", .string message)]

/-- The link of a code. -/
def codeLink? (j : Json) : Option Json := do
  let j ← object? j
  return obj [("href", .string (← text? (j.get "href")))]

/-- A problem. The code of a problem keeps its value only with `keepCode`. -/
def problem? (keepCode : Bool) (j : Json) : Option ShownProblem := do
  let j ← object? j
  let range ← range? (j.get "range")
  let severity ← optional? int32? (j.get "severity")
  let code ← optional? code? (j.get "code")
  let code := if keepCode then code else code.map fun _ => .blank
  let link ← optional? codeLink? (j.get "codeDescription")
  let source ← optional? text? (j.get "source")
  let message ← text? (j.get "message")
  let tags ← list? int32? (j.get "tags")
  let related ← list? related? (j.get "relatedInformation")
  return {
    range, source, code
    whole := obj <|
      [("range", ofRange range), ("message", .string message)] ++
      unlessNull "severity" (severity.elim .null .int) ++ (code.map fun c => ("code", ofCode c)).toList ++
      unlessNull "codeDescription" (link.getD .null) ++ unlessNull "source" (source.elim .null .string) ++
      unlessEmpty "tags" (tags.map .int) ++ unlessEmpty "relatedInformation" related ++
      unlessNull "data" (j.get "data") }

/-! ## Requests -/

/-- The start of a session. -/
def start? (j : Json) : Option Request := do
  let j ← object? j
  let _ ← optional? int32? (j.get "processId")
  let _ ← optional? object? (j.get "clientInfo")
  let _ ← optional? text? (j.get "locale")
  let _ ← optional? text? (j.get "trace")
  let _ ← object? (j.get "capabilities")
  let _ ← list? object? (j.get "workspaceFolders")
  let rootPath ← optional? text? (j.get "rootPath")
  let rootUri ← optional? text? (j.get "rootUri")
  return .start rootUri rootPath

/-- The opening of a document. -/
def didOpen? (j : Json) : Option Request := do
  let j ← object? j
  let doc ← object? (j.get "textDocument")
  let _ ← text? (doc.get "languageId")
  return .didOpen ⟨← text? (doc.get "uri"), ← int32? (doc.get "version"), ← text? (doc.get "text")⟩

/-- A change of a document, of which only the new text counts. -/
def change? (j : Json) : Option Text := do
  let j ← object? j
  let _ ← optional? range? (j.get "range")
  let _ ← optional? uint32? (j.get "rangeLength")
  text? (j.get "text")

/-- The changing of a document. -/
def didChange? (j : Json) : Option Request := do
  let j ← object? j
  let doc ← object? (j.get "textDocument")
  return .didChange (← text? (doc.get "uri")) (← int32? (doc.get "version")) (← list? change? (j.get "contentChanges"))

/-- The width that formatting options give to tabs, if it is positive. -/
def tabSize? (options : Json) : Option Int :=
  match options.get "tabSize" with
  | .number m e => if m > 0 then some (Number.Decimal.toWord ⟨m, e⟩) else none
  | _ => none

/-- A request for formatting. -/
def formatting? (j : Json) : Option Request := do
  let uri ← documentUri? j
  let options ← object? (j.get "options")
  return .formatting uri (tabSize? options)

/-- A request for quick fixes. -/
def quickFixes? (keepCode : Bool) (j : Json) : Option Request := do
  let uri ← documentUri? j
  let _ ← range? (j.get "range")
  let context ← object? (j.get "context")
  return .quickFixes uri (← list? text? (context.get "only")) (← list? (problem? keepCode) (context.get "diagnostics"))

/-- How the request of a method is read from its parameters; a method that the server does not have is none. -/
def reader? (method : Text) : Option (Json → Option Request) :=
  let table : List (Text × (Json → Option Request)) :=
    [("initialize", start?), ("shutdown", fun _ => some .shutdown), ("exit", fun _ => some .exit),
     ("$/setTrace", fun j => do
        let j ← object? j
        let _ ← text? (j.get "value")
        return .setTrace),
     ("textDocument/didOpen", didOpen?), ("textDocument/didChange", didChange?),
     ("textDocument/didSave", fun j => do
        let uri ← documentUri? j
        let _ ← optional? text? (j.get "text")
        return .didSave uri),
     ("textDocument/didClose", fun j => (documentUri? j).map .didClose),
     ("textDocument/formatting", formatting?), ("textDocument/foldingRange", fun j => (documentUri? j).map .folding),
     ("textDocument/codeAction", quickFixes? false)]
  (table.find? (·.1 == method)).map (·.2)

/-! ## Answers -/

/-- What the server can do. -/
def capabilities : Json :=
  obj [
    ("capabilities", obj [
      ("textDocumentSync", obj [
        ("openClose", .bool true), ("change", .nat 1), ("save", obj [("includeText", .bool false)])]),
      ("codeActionProvider", obj [("codeActionKinds", .array [.string QuickFix.kind])]),
      ("documentFormattingProvider", .bool true),
      ("foldingRangeProvider", .bool true)]),
    ("serverInfo", obj [("name", "cstyle-lsp"), ("version", "0.1.0")])]

/-- An edit. -/
def ofEdit (e : TextEdit) : Json := obj [("range", ofRange e.range), ("newText", .string e.newText)]

/-- A fold. -/
def ofFold (f : Fold) : Json :=
  obj [("startLine", .nat (clamp f.start)), ("endLine", .nat (clamp f.stop)),
    ("kind", match f.kind with | .region => "region" | .comment => "comment")]

/-- A quick fix of a document. -/
def ofFix (uri : Text) (q : QuickFix) : Json :=
  obj [("title", .string q.title), ("kind", .string QuickFix.kind), ("diagnostics", .array [q.problem.whole]),
    ("edit", obj [("changes", .object [(uri, .array [ofEdit q.edit])])])]

/-- A list, where an empty one is null. -/
def listOrNull (items : List Json) : Json := if items.isEmpty then .null else .array items

/-- The result of a request; a refused one has none. -/
def ofAnswer : Answer → Option Json
  | .nothing => some .null
  | .capabilities => some capabilities
  | .edits es => some (listOrNull (es.map ofEdit))
  | .folds fs => some (listOrNull (fs.map ofFold))
  | .fixes uri qs => some (listOrNull (qs.map (ofFix uri)))
  | .refused => none

/-- A published problem. -/
def ofProblem (p : Problem) : Json :=
  obj [("range", ofRange p.range), ("severity", .nat p.severity), ("code", .string p.code),
    ("source", .string problemSource), ("message", .string p.message)]

/-- The name of the message that publishes problems. -/
def publishMethod : Text := "textDocument/publishDiagnostics"

/-- The parameters of the message that publishes problems. -/
def ofPublication (p : Publication) : Json :=
  obj [("uri", .string p.uri), ("diagnostics", .array (p.problems.map ofProblem))]

/-! ## Dispatch -/

/-- How a message was taken. -/
inductive Reply where
  | result (j : Json)
  | unknownMethod
  | invalidParams
  | failed (message : Text)

/-- Takes a message: its method is looked up only if the session is given the message (`Session.admits`), and its
parameters are read only if the method is known. -/
def dispatch (s : Session) (method : Text) (params : Option Json) : Session × Reply × List Publication :=
  if !s.admits (method == Text.ofString "initialize") then (s, .failed refusal, [])
  else
    match reader? method with
    | none => (s, .unknownMethod, [])
    | some read =>
      let request := match params with
        | some j => read j
        | none => if method == Text.ofString "shutdown" || method == Text.ofString "exit" then read .null else none
      match request with
      | none => (s, .invalidParams, [])
      | some r =>
        let out := s.receive r
        (out.session, (ofAnswer out.answer).elim (.failed refusal) .result, out.publications)

end HouseStyle.Server.Message
