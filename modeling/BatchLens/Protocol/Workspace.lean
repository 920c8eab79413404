import BatchLens.Document
import BatchLens.Uri.Basic

/-!
# Workspaces

The documents that are open, each under its name. Opening a document that is open replaces its
text, and closing one that is not open changes nothing. What is stored under a name depends
only on what was done to that name (`document?_insert`, `document?_erase`).
-/

namespace BatchLens

/-- The open documents. -/
structure Workspace where
  documents : List (Uri × Document)
  deriving DecidableEq, Repr

namespace Workspace

/-- The workspace without any document. -/
def empty : Workspace := ⟨[]⟩

/-- The document of that name, if it is open. -/
def document? (workspace : Workspace) (uri : Uri) : Option Document :=
  workspace.documents.lookup uri

/-- The workspace without the document of that name. -/
def erase (workspace : Workspace) (uri : Uri) : Workspace :=
  ⟨workspace.documents.filter fun entry => entry.1 != uri⟩

/-- The workspace with a document of that name, in place of the one that was there. -/
def insert (workspace : Workspace) (uri : Uri) (document : Document) : Workspace :=
  ⟨(uri, document) :: (workspace.erase uri).documents⟩

theorem document?_empty (uri : Uri) : empty.document? uri = none := rfl

theorem document?_erase (workspace : Workspace) (erased uri : Uri) :
    (workspace.erase erased).document? uri =
      if uri = erased then none else workspace.document? uri := by
  rcases workspace with ⟨documents⟩
  simp only [erase, document?]
  induction documents with
  | nil => simp
  | cons entry others ih =>
      rcases entry with ⟨name, document⟩
      by_cases isErased : name = erased
      · subst isErased
        rw [List.filter_cons_of_neg (by simp), ih]
        by_cases isUri : uri = name
        · simp [isUri]
        · have differs : (uri == name) = false := by simp [isUri]
          simp [List.lookup_cons, isUri, differs]
      · rw [List.filter_cons_of_pos (by simp [isErased])]
        by_cases isUri : uri = name
        · simp [isErased, isUri]
        · have differs : (uri == name) = false := by simp [isUri]
          simp only [List.lookup_cons, differs, ih]

theorem document?_insert (workspace : Workspace) (inserted uri : Uri) (document : Document) :
    (workspace.insert inserted document).document? uri =
      if uri = inserted then some document else workspace.document? uri := by
  have erased := document?_erase workspace inserted uri
  by_cases isUri : uri = inserted
  · simp [insert, document?, isUri]
  · have differs : (uri == inserted) = false := by simp [isUri]
    simpa [insert, document?, List.lookup_cons, differs, isUri] using erased

end Workspace

end BatchLens
