import LinkedDocs.FileTree
import LinkedDocs.Log

/-!
# Sessions

Work that changes a file tree and logs events. Whether it succeeds or fails, the
tree and the events up to that point are kept.
-/

namespace LinkedDocs

/-- A file tree and the events so far, the last first. -/
structure Session where
  tree : FileTree
  events : List Log.Event := []

/-- Work in a session that may fail. -/
abbrev SessionWork (ε : Type) := ExceptT ε (StateM Session)

namespace SessionWork

variable {ε α : Type}

/-- Logs an event. -/
def log (level : Log.Level) (message : String) (fields : List (String × Value)) :
    SessionWork ε Unit :=
  modify fun s => { s with events := ⟨level, message, fields⟩ :: s.events }

/-- Works on the tree of the session; a fault is reported as an error of the session. -/
def onTree (report : FileFault → ε) (work : FileWork α) : SessionWork ε α := fun s =>
  match work s.tree with
  | (.ok a, tree) => (.ok a, { s with tree })
  | (.error fault, tree) => (.error (report fault), { s with tree })

/-- Work whose errors count as errors of another kind. -/
def within {δ : Type} (report : δ → ε) (work : SessionWork δ α) : SessionWork ε α := fun s =>
  match work s with
  | (.ok a, t) => (.ok a, t)
  | (.error e, t) => (.error (report e), t)

end SessionWork

end LinkedDocs
