import ShaderDiagnostics.Json.Shape

/-!
# Capabilities of editors

The shape of the object by which an editor says what it can do, as the Language Server Protocol lays it
down. Only a few members matter to the server, but the object counts only as a whole.
-/

namespace ShaderDiagnostics.Client

open Json (Shape RecordField Members)
open Json.Shape

/-- Capabilities that consist of a few switches. -/
def switches (name : String) (keys : List String) : Shape :=
  record name (keys.map fun key => optional key bool)

/-- The switch for dynamic registration, with which most capabilities start. -/
def registration : RecordField Members := optional "dynamicRegistration" bool

/-- A capability that can only be registered. -/
def registered : Shape := record "DynamicRegistrationClientCapabilities" [registration]

/-- A capability whose results may be asked for anew. -/
def refreshable (name : String) : Shape := switches name ["refreshSupport"]

/-- A list of numbers that the editor knows. -/
def knownNumbers (name : String) : Shape := record name [optional "valueSet" (list i32)]

/-- Tags that the editor knows; some editors send a truth value instead. -/
def tags : RecordField Members :=
  .defaulted "tagSupport" (fun j =>
    match j with
    | .bool false => .ok .null
    | .bool true => .ok (Json.object [("valueSet", .arr [])])
    | j =>
      (Json.Decoder.optional (record "TagSupport" [required "valueSet" (list i32)]) j).map Json.orNull)
    (Json.insert "tagSupport")

/-- Properties that can be resolved later. -/
def resolvable (name : String) : Shape := record name [required "properties" (list string)]

/-- The markup languages. -/
def markup : Shape := word ["plaintext", "markdown"]

/-- Capabilities of workspace edits. -/
def workspaceEdit : Shape :=
  record "WorkspaceEditClientCapabilities" [
    optional "documentChanges" bool,
    optional "resourceOperations" (list (word ["create", "rename", "delete"])),
    optional "failureHandling" (word ["abort", "transactional", "textOnlyTransactional", "undo"]),
    optional "normalizesLineEndings" bool,
    optional "changeAnnotationSupport"
      (switches "ChangeAnnotationWorkspaceEditClientCapabilities" ["groupsOnLabel"])]

/-- Capabilities of symbol searches. -/
def workspaceSymbol : Shape :=
  record "WorkspaceSymbolClientCapabilities" [
    registration,
    optional "symbolKind" (knownNumbers "SymbolKindCapability"),
    tags,
    optional "resolveSupport" (resolvable "WorkspaceSymbolResolveSupportCapability")]

/-- Capabilities of the workspace. -/
def workspace : Shape :=
  record "WorkspaceClientCapabilities" [
    optional "applyEdit" bool,
    optional "workspaceEdit" workspaceEdit,
    optional "didChangeConfiguration" registered,
    optional "didChangeWatchedFiles"
      (switches "DidChangeWatchedFilesClientCapabilities"
        ["dynamicRegistration", "relativePatternSupport"]),
    optional "symbol" workspaceSymbol,
    optional "executeCommand" registered,
    optional "workspaceFolders" bool,
    optional "configuration" bool,
    optional "semanticTokens" (refreshable "SemanticTokensWorkspaceClientCapabilities"),
    optional "codeLens" (refreshable "CodeLensWorkspaceClientCapabilities"),
    optional "fileOperations"
      (switches "WorkspaceFileOperationsClientCapabilities"
        ["dynamicRegistration", "didCreate", "willCreate", "didRename", "willRename", "didDelete",
          "willDelete"]),
    optional "inlineValue" (refreshable "InlineValueWorkspaceClientCapabilities"),
    optional "inlayHint" (refreshable "InlayHintWorkspaceClientCapabilities"),
    optional "diagnostic" (refreshable "DiagnosticWorkspaceClientCapabilities")]

/-- Capabilities of the items of a completion. -/
def completionItem : Shape :=
  record "CompletionItemCapability" [
    optional "snippetSupport" bool,
    optional "commitCharactersSupport" bool,
    optional "documentationFormat" (list markup),
    optional "deprecatedSupport" bool,
    optional "preselectSupport" bool,
    tags,
    optional "insertReplaceSupport" bool,
    optional "resolveSupport" (resolvable "CompletionItemCapabilityResolveSupport"),
    optional "insertTextModeSupport"
      (record "InsertTextModeSupport" [required "valueSet" (list i32)]),
    optional "labelDetailsSupport" bool]

/-- Capabilities of completion. -/
def completion : Shape :=
  record "CompletionClientCapabilities" [
    registration,
    optional "completionItem" completionItem,
    optional "completionItemKind" (knownNumbers "CompletionItemKindCapability"),
    optional "contextSupport" bool,
    optional "insertTextMode" i32,
    optional "completionList"
      (record "CompletionListCapability" [optional "itemDefaults" (list string)])]

/-- Capabilities of signature help. -/
def signatureHelp : Shape :=
  record "SignatureHelpClientCapabilities" [
    registration,
    optional "signatureInformation"
      (record "SignatureInformationSettings" [
        optional "documentationFormat" (list markup),
        optional "parameterInformation"
          (switches "ParameterInformationSettings" ["labelOffsetSupport"]),
        optional "activeParameterSupport" bool]),
    optional "contextSupport" bool]

/-- Capabilities of document outlines. -/
def documentSymbol : Shape :=
  record "DocumentSymbolClientCapabilities" [
    registration,
    optional "symbolKind" (knownNumbers "SymbolKindCapability"),
    optional "hierarchicalDocumentSymbolSupport" bool,
    tags]

/-- Capabilities of code actions. -/
def codeAction : Shape :=
  record "CodeActionClientCapabilities" [
    registration,
    optional "codeActionLiteralSupport"
      (record "CodeActionLiteralSupport" [
        required "codeActionKind"
          (record "CodeActionKindLiteralSupport" [required "valueSet" (list string)])]),
    optional "isPreferredSupport" bool,
    optional "disabledSupport" bool,
    optional "dataSupport" bool,
    optional "resolveSupport" (resolvable "CodeActionCapabilityResolveSupport"),
    optional "honorsChangeAnnotations" bool]

/-- Capabilities of renaming. -/
def rename : Shape :=
  record "RenameClientCapabilities" [
    registration,
    optional "prepareSupport" bool,
    optional "prepareSupportDefaultBehavior" i32,
    optional "honorsChangeAnnotations" bool]

/-- Capabilities of published diagnostics. -/
def publishDiagnostics : Shape :=
  record "PublishDiagnosticsClientCapabilities" [
    optional "relatedInformation" bool,
    tags,
    optional "versionSupport" bool,
    optional "codeDescriptionSupport" bool,
    optional "dataSupport" bool]

/-- Capabilities of folding. -/
def foldingRange : Shape :=
  record "FoldingRangeClientCapabilities" [
    registration,
    optional "rangeLimit" u32,
    optional "lineFoldingOnly" bool,
    optional "foldingRangeKind"
      (record "FoldingRangeKindCapability" [
        optional "valueSet" (list (word ["comment", "imports", "region"]))]),
    optional "foldingRange" (switches "FoldingRangeCapability" ["collapsedText"])]

/-- Capabilities of semantic tokens. -/
def semanticTokens : Shape :=
  record "SemanticTokensClientCapabilities" [
    registration,
    required "requests"
      (record "SemanticTokensClientCapabilitiesRequests" [
        optional "range" bool,
        optional "full"
          (either "SemanticTokensFullOptions" bool
            (unlistedRecord "SemanticTokensFullOptions" [optional "delta" bool]))]),
    required "tokenTypes" (list string),
    required "tokenModifiers" (list string),
    required "formats" (list string),
    optional "overlappingTokenSupport" bool,
    optional "multilineTokenSupport" bool,
    optional "serverCancelSupport" bool,
    optional "augmentsSyntaxTokens" bool]

/-- Capabilities of links to places. -/
def goto : Shape := switches "GotoCapability" ["dynamicRegistration", "linkSupport"]

/-- Capabilities of documents. -/
def textDocument : Shape :=
  record "TextDocumentClientCapabilities" [
    optional "synchronization"
      (switches "TextDocumentSyncClientCapabilities"
        ["dynamicRegistration", "willSave", "willSaveWaitUntil", "didSave"]),
    optional "completion" completion,
    optional "hover"
      (record "HoverClientCapabilities" [registration, optional "contentFormat" (list markup)]),
    optional "signatureHelp" signatureHelp,
    optional "references" registered,
    optional "documentHighlight" registered,
    optional "documentSymbol" documentSymbol,
    optional "formatting" registered,
    optional "rangeFormatting" registered,
    optional "onTypeFormatting" registered,
    optional "declaration" goto,
    optional "definition" goto,
    optional "typeDefinition" goto,
    optional "implementation" goto,
    optional "codeAction" codeAction,
    optional "codeLens" registered,
    optional "documentLink"
      (switches "DocumentLinkClientCapabilities" ["dynamicRegistration", "tooltipSupport"]),
    optional "colorProvider" registered,
    optional "rename" rename,
    optional "publishDiagnostics" publishDiagnostics,
    optional "foldingRange" foldingRange,
    optional "selectionRange"
      (switches "SelectionRangeClientCapabilities" ["dynamicRegistration"]),
    optional "linkedEditingRange" registered,
    optional "callHierarchy" registered,
    optional "semanticTokens" semanticTokens,
    optional "moniker" registered,
    optional "typeHierarchy" registered,
    optional "inlineValue" registered,
    optional "inlayHint"
      (record "InlayHintClientCapabilities" [
        registration,
        optional "resolveSupport" (resolvable "InlayHintResolveClientCapabilities")]),
    optional "diagnostic"
      (switches "DiagnosticClientCapabilities" ["dynamicRegistration", "relatedDocumentSupport"])]

/-- Capabilities of notebooks. -/
def notebookDocument : Shape :=
  record "NotebookDocumentClientCapabilities" [
    required "synchronization"
      (switches "NotebookDocumentSyncClientCapabilities"
        ["dynamicRegistration", "executionSummaryReport"])]

/-- Capabilities of the window. -/
def window : Shape :=
  record "WindowClientCapabilities" [
    optional "workDoneProgress" bool,
    optional "showMessage"
      (record "ShowMessageRequestClientCapabilities" [
        optional "messageActionItem"
          (switches "MessageActionItemCapabilities" ["additionalPropertiesSupport"])]),
    optional "showDocument" (record "ShowDocumentClientCapabilities" [required "support" bool])]

/-- General capabilities. -/
def general : Shape :=
  record "GeneralClientCapabilities" [
    optional "regularExpressions"
      (record "RegularExpressionsClientCapabilities" [
        required "engine" string, optional "version" string]),
    optional "markdown"
      (record "MarkdownClientCapabilities" [
        required "parser" string, optional "version" string,
        optional "allowedTags" (list string)]),
    optional "staleRequestSupport"
      (record "StaleRequestSupportClientCapabilities" [
        required "cancel" bool, required "retryOnContentModified" (list string)]),
    optional "positionEncodings" (list string)]

/-- All capabilities. -/
def capabilities : Shape :=
  record "ClientCapabilities" [
    optional "workspace" workspace,
    optional "textDocument" textDocument,
    optional "notebookDocument" notebookDocument,
    optional "window" window,
    optional "general" general,
    optional "experimental" any]

end ShaderDiagnostics.Client
