import GT3Code.Base.FreshNames

/-! # Scoped references

Projects and threads of several environments, told apart by the environment.
-/

namespace GT3Code.Web

open GT3Code.Base GT3Code.Base.Json

structure ScopedProjectRef where
  environmentId : Text
  projectId : Text

structure ScopedThreadRef where
  environmentId : Text
  threadId : Text
  deriving DecidableEq

def scopedThreadKey (ref : ScopedThreadRef) : Text := ref.environmentId ++ ascii ":" ++ ref.threadId

end GT3Code.Web
