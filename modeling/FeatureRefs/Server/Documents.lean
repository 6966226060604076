import FeatureRefs.Server.Basic

/-!
# Documents of a server

Whenever the text or the version of a document may have changed, its diagnostics are told anew. When a
document is closed, its diagnostics are taken back.
-/

namespace FeatureRefs.Server

/-- Opens a document. -/
def openDocument (server : Server) (uri : String) (document : TextDocument) :
    Server × List Notification :=
  let server := { server with documents := server.documents.openDocument uri document }
  (server, server.publish uri)

/-- Changes a document. Of several texts the last one counts; a change without text or of an outdated
version does nothing. -/
def changeDocument (server : Server) (uri : String) (version : Int) (texts : List String) :
    Server × List Notification :=
  match texts.getLast? with
  | none => (server, [])
  | some text =>
      match server.documents.change uri ⟨version, text⟩ with
      | (_, false) => (server, [])
      | (documents, true) =>
          let server := { server with documents }
          (server, server.publish uri)

/-- Tells the diagnostics of a document that is saved. -/
def saveDocument (server : Server) (uri : String) : List Notification :=
  server.publish uri

/-- Closes a document. -/
def closeDocument (server : Server) (uri : String) : Server × List Notification :=
  ({ server with documents := server.documents.close uri }, [.diagnostics uri [] none])

/-- The hover at a position of a document. -/
def hover (server : Server) (uri : String) (position : Position) : Option Hover :=
  server.documents.hover uri position server.registry server.config.hoverStyle

end FeatureRefs.Server
