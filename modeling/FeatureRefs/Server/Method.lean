import FeatureRefs.Server.Params

/-!
# Methods

The methods of the editor protocol. A request is answered and a notification is not. A method without
parameters does not take any.
-/

namespace FeatureRefs

open Json

/-- A method of the editor protocol. -/
structure Method where
  name : String
  isRequest : Bool
  /-- What the parameters must be. -/
  params : Option Shape := some .any

namespace Method

/-- A request. -/
def request (name : String) (params : Shape) : Method :=
  { name, isRequest := true, params := some params }

/-- A notification. -/
def notification (name : String) (params : Shape) : Method :=
  { name, isRequest := false, params := some params }

/-- The notifications that are known. -/
def notifications : List Method := [
  notification "initialized" Params.ready,
  notification "textDocument/didOpen" Params.opened,
  notification "textDocument/didChange" Params.changed,
  notification "textDocument/willSave" .any,
  notification "textDocument/didSave" Params.saved,
  notification "textDocument/didClose" Params.closed,
  notification "workspace/didChangeConfiguration" .any,
  notification "workspace/didChangeWorkspaceFolders" .any,
  notification "workspace/didCreateFiles" .any,
  notification "workspace/didRenameFiles" .any,
  notification "workspace/didDeleteFiles" .any,
  notification "workspace/didChangeWatchedFiles" .any]

/-- The requests that are answered. -/
def answeredRequests : List Method := [
  request "initialize" Params.setUp,
  { name := "shutdown", isRequest := true, params := none },
  request "textDocument/hover" Params.hover,
  request "textDocument/completion" Params.completion,
  request "workspace/executeCommand" Params.command]

/-- The other requests about a place in a document, with what their parameters are called. -/
def placeRequests : List (String × String) := [
  ("textDocument/declaration", "GotoDefinitionParams"),
  ("textDocument/definition", "GotoDefinitionParams"),
  ("textDocument/typeDefinition", "GotoDefinitionParams"),
  ("textDocument/implementation", "GotoDefinitionParams"),
  ("textDocument/prepareCallHierarchy", "CallHierarchyPrepareParams"),
  ("textDocument/prepareTypeHierarchy", "TypeHierarchyPrepareParams"),
  ("textDocument/documentHighlight", "DocumentHighlightParams"),
  ("textDocument/moniker", "MonikerParams"),
  ("textDocument/signatureHelp", "SignatureHelpParams"),
  ("textDocument/linkedEditingRange", "LinkedEditingRangeParams")]

/-- The other requests about a whole document, with what their parameters are called and what else they
have. -/
def documentRequests : List (String × String × List (String × Shape)) := [
  ("textDocument/documentLink", "DocumentLinkParams", []),
  ("textDocument/codeLens", "CodeLensParams", []),
  ("textDocument/foldingRange", "FoldingRangeParams", []),
  ("textDocument/selectionRange", "SelectionRangeParams", [("positions", .list Params.position)]),
  ("textDocument/documentSymbol", "DocumentSymbolParams", []),
  ("textDocument/semanticTokens/full", "SemanticTokensParams", []),
  ("textDocument/semanticTokens/full/delta", "SemanticTokensDeltaParams",
    [("previousResultId", .text)]),
  ("textDocument/semanticTokens/range", "SemanticTokensRangeParams", [("range", Params.range)]),
  ("textDocument/inlineValue", "InlineValueParams", [("range", Params.range), ("context", .any)]),
  ("textDocument/inlayHint", "InlayHintParams", [("range", Params.range)]),
  ("textDocument/diagnostic", "DocumentDiagnosticParams",
    [("identifier", .optional .text), ("previousResultId", .optional .text)]),
  ("textDocument/codeAction", "CodeActionParams", [("range", Params.range), ("context", .any)]),
  ("textDocument/documentColor", "DocumentColorParams", []),
  ("textDocument/colorPresentation", "ColorPresentationParams",
    [("color", .any), ("range", Params.range)]),
  ("textDocument/formatting", "DocumentFormattingParams", [("options", Params.formattingOptions)]),
  ("textDocument/rangeFormatting", "DocumentRangeFormattingParams",
    [("range", Params.range), ("options", Params.formattingOptions)])]

/-- The other requests with members of their own only. -/
def itemRequests : List (String × String × List (String × Shape)) := [
  ("callHierarchy/incomingCalls", "CallHierarchyIncomingCallsParams", [("item", .any)]),
  ("callHierarchy/outgoingCalls", "CallHierarchyOutgoingCallsParams", [("item", .any)]),
  ("typeHierarchy/supertypes", "TypeHierarchySupertypesParams", [("item", .any)]),
  ("typeHierarchy/subtypes", "TypeHierarchySubtypesParams", [("item", .any)]),
  ("documentLink/resolve", "DocumentLink", [("range", Params.range)]),
  ("codeLens/resolve", "CodeLens", [("range", Params.range)]),
  ("inlayHint/resolve", "InlayHint", [("position", Params.position), ("label", .any)]),
  ("completionItem/resolve", "CompletionItem", [("label", .text)]),
  ("codeAction/resolve", "CodeAction", [("title", .text)]),
  ("workspaceSymbol/resolve", "WorkspaceSymbol",
    [("name", .text), ("kind", .integer .signed), ("location", .any)]),
  ("workspace/diagnostic", "WorkspaceDiagnosticParams", [("previousResultIds", .list .any)])]

/-- The requests that are known. -/
def requests : List Method :=
  let parts := [Params.progress, Params.partialResult]
  answeredRequests ++
    placeRequests.map (fun (name, params) => request name (Params.atPosition params parts)) ++
    documentRequests.map (fun (name, params, fields) =>
      request name (Params.onDocument params fields parts)) ++
    itemRequests.map (fun (name, params, fields) => request name (.merged params fields [])) ++ [
    request "textDocument/willSaveWaitUntil" Params.aboutToSave,
    request "textDocument/references" Params.references,
    request "textDocument/onTypeFormatting" Params.onTypeFormatting,
    request "textDocument/rename" Params.rename,
    request "textDocument/prepareRename" Params.documentPosition,
    request "workspace/symbol" Params.workspaceSymbol,
    request "workspace/willCreateFiles" Params.createdFiles,
    request "workspace/willRenameFiles" Params.renamedFiles,
    request "workspace/willDeleteFiles" Params.deletedFiles]

/-- The method of a name. -/
def ofName? (name : String) : Option Method :=
  (notifications ++ requests).find? (·.name == name)

end Method

end FeatureRefs
