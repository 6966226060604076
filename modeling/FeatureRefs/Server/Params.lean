import FeatureRefs.Json.Shape

/-!
# Parameters of messages

The shapes of what an editor sends along with a message.
-/

namespace FeatureRefs.Params

open Json

/-- A number that counts from zero. -/
def count : Shape := .integer .unsigned

/-- A place in a document. -/
def position : Shape := .record "Position" [("line", count), ("character", count)]

/-- A stretch of a document. -/
def range : Shape := .record "Range" [("start", position), ("end", position)]

/-- A document. -/
def documentId : Shape := .record "TextDocumentIdentifier" [("uri", .uri)]

/-- A document with its version. -/
def versionedId : Shape :=
  .record "VersionedTextDocumentIdentifier" [("uri", .uri), ("version", .integer .signed)]

/-- A document with its text. -/
def documentItem : Shape :=
  .record "TextDocumentItem" [
    ("uri", .uri), ("languageId", .text), ("version", .integer .signed), ("text", .text)]

/-- The change of a text. -/
def contentChange : Shape :=
  .record "TextDocumentContentChangeEvent" [
    ("range", .optional range), ("rangeLength", .optional count), ("text", .text)]

/-! ## Parts that several messages share -/

/-- A document and a place in it. -/
def documentPosition : Shape :=
  .record "TextDocumentPositionParams" [("textDocument", documentId), ("position", position)]

/-- Whether progress is to be told. -/
def progress : Shape :=
  .record "WorkDoneProgressParams" [("workDoneToken", .optional .token)]

/-- Whether results are to be told one by one. -/
def partialResult : Shape :=
  .record "PartialResultParams" [("partialResultToken", .optional .token)]

/-- A message about a place in a document. -/
def atPosition (name : String) (parts : List Shape) : Shape :=
  .merged name [] (documentPosition :: parts)

/-- A message about a document. -/
def onDocument (name : String) (fields : List (String × Shape)) (parts : List Shape) : Shape :=
  .merged name (("textDocument", documentId) :: fields) parts

/-! ## Messages about documents -/

/-- A document is opened. -/
def opened : Shape :=
  .record "DidOpenTextDocumentParams" [("textDocument", documentItem)]

/-- A document is changed. -/
def changed : Shape :=
  .record "DidChangeTextDocumentParams" [
    ("textDocument", versionedId), ("contentChanges", .list contentChange)]

/-- A document is saved. -/
def saved : Shape :=
  .record "DidSaveTextDocumentParams" [("textDocument", documentId), ("text", .optional .text)]

/-- A document is closed. -/
def closed : Shape :=
  .record "DidCloseTextDocumentParams" [("textDocument", documentId)]

/-- What is under the cursor is asked for. -/
def hover : Shape := atPosition "HoverParams" [progress]

/-- Why completions are asked for. -/
def completionContext : Shape :=
  .record "CompletionContext" [
    ("triggerKind", .integer .signed), ("triggerCharacter", .optional .text)]

/-- Completions are asked for. -/
def completion : Shape :=
  .merged "CompletionParams" [("context", .optional completionContext)]
    [documentPosition, progress, partialResult]

/-- A command is to be carried out. -/
def command : Shape :=
  .merged "ExecuteCommandParams" [("command", .text), ("arguments", .omissible (.list .any))]
    [progress]

/-! ## Setting up -/

/-- A folder to work in. -/
def workspaceFolder : Shape :=
  .record "WorkspaceFolder" [("uri", .uri), ("name", .text)]

/-- The name of the editor. -/
def clientInfo : Shape :=
  .record "ClientInfo" [("name", .text), ("version", .optional .text)]

/-- What the editor can do in one respect. -/
def capabilities (name : String) : Shape := .optional (.merged name [] [])

/-- What the editor can do. -/
def clientCapabilities : Shape :=
  .record "ClientCapabilities" [
    ("workspace", capabilities "WorkspaceClientCapabilities"),
    ("textDocument", capabilities "TextDocumentClientCapabilities"),
    ("notebookDocument", capabilities "NotebookDocumentClientCapabilities"),
    ("window", capabilities "WindowClientCapabilities"),
    ("general", capabilities "GeneralClientCapabilities"),
    ("experimental", .optional .any)]

/-- The first message. -/
def setUp : Shape :=
  .record "InitializeParams" [
    ("processId", .optional count), ("rootPath", .optional .text), ("rootUri", .optional .uri),
    ("initializationOptions", .optional .any), ("capabilities", clientCapabilities),
    ("trace", .optional (.choice ["off", "messages", "verbose"])),
    ("workspaceFolders", .optional (.list workspaceFolder)),
    ("clientInfo", .optional clientInfo), ("locale", .optional .text)]

/-- The second message, which says nothing. -/
def ready : Shape := .record "InitializedParams" []

/-! ## Messages that are known and not answered -/

/-- How a document is to be laid out. -/
def formattingOptions : Shape :=
  .merged "FormattingOptions" [
    ("tabSize", count), ("insertSpaces", .flag), ("trimTrailingWhitespace", .optional .flag),
    ("insertFinalNewline", .optional .flag), ("trimFinalNewlines", .optional .flag)] []

/-- The references to a symbol are asked for. -/
def references : Shape :=
  .merged "ReferenceParams"
    [("context", .record "ReferenceContext" [("includeDeclaration", .flag)])]
    [documentPosition, progress, partialResult]

/-- A symbol is to get another name. -/
def rename : Shape :=
  .merged "RenameParams" [("newName", .text)] [documentPosition, progress]

/-- A document is to be laid out while it is written. -/
def onTypeFormatting : Shape :=
  .merged "DocumentOnTypeFormattingParams" [("ch", .text), ("options", formattingOptions)]
    [documentPosition]

/-- A document is about to be saved. -/
def aboutToSave : Shape :=
  .record "WillSaveTextDocumentParams" [
    ("textDocument", documentId), ("reason", .integer .signed)]

/-- Symbols of the workspace are asked for. -/
def workspaceSymbol : Shape :=
  .merged "WorkspaceSymbolParams" [("query", .text)] [partialResult, progress]

/-- Files are about to be created. -/
def createdFiles : Shape :=
  .record "CreateFilesParams" [("files", .list (.record "FileCreate" [("uri", .text)]))]

/-- Files are about to get other names. -/
def renamedFiles : Shape :=
  .record "RenameFilesParams" [
    ("files", .list (.record "FileRename" [("oldUri", .text), ("newUri", .text)]))]

/-- Files are about to be deleted. -/
def deletedFiles : Shape :=
  .record "DeleteFilesParams" [("files", .list (.record "FileDelete" [("uri", .text)]))]

end FeatureRefs.Params
