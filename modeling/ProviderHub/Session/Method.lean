/-!
The methods of the protocol by name.
-/

namespace ProviderHub.Method

/-! ### Lifecycle -/

def initializeRequest : String := "initialize"
def initialized : String := "initialized"
def shutdown : String := "shutdown"
def exit : String := "exit"
def cancelRequest : String := "$/cancelRequest"

/-! ### Documents and files -/

def didOpen : String := "textDocument/didOpen"
def didChange : String := "textDocument/didChange"
def didClose : String := "textDocument/didClose"
def didChangeWatchedFiles : String := "workspace/didChangeWatchedFiles"

/-! ### Features -/

def completion : String := "textDocument/completion"
def completionResolve : String := "completionItem/resolve"
def hover : String := "textDocument/hover"
def definition : String := "textDocument/definition"
def references : String := "textDocument/references"
def signatureHelp : String := "textDocument/signatureHelp"
def rename : String := "textDocument/rename"
def formatting : String := "textDocument/formatting"
def codeAction : String := "textDocument/codeAction"
def codeActionResolve : String := "codeAction/resolve"
def codeLens : String := "textDocument/codeLens"
def codeLensResolve : String := "codeLens/resolve"
def documentLink : String := "textDocument/documentLink"
def prepareCallHierarchy : String := "textDocument/prepareCallHierarchy"
def incomingCalls : String := "callHierarchy/incomingCalls"
def outgoingCalls : String := "callHierarchy/outgoingCalls"
def executeCommand : String := "workspace/executeCommand"

/-! ### From the server to the client -/

def registerCapability : String := "client/registerCapability"
def unregisterCapability : String := "client/unregisterCapability"

end ProviderHub.Method
