import QueryRegression.Text.Utf8

/-!
# Large objects

A large object is a handle on content that is kept elsewhere. Every reading opens it anew and
yields the whole content, or fails in the same way. Two handles are the same object only if they
are the same handle, whatever they read as.
-/

namespace QueryRegression

/-- The three kinds of large objects. -/
inductive LargeObjectKind where
  | clob
  | xml
  | blob
deriving DecidableEq

/-- The name of a kind. -/
def LargeObjectKind.name : LargeObjectKind → String
  | .clob => "clob"
  | .xml => "xml"
  | .blob => "blob"

/-- Why a large object cannot be read. -/
inductive ReadFault where
  /-- The store that keeps the object refuses, in its own words. -/
  | refused (reason : String)
  /-- The content is no text. -/
  | notText (fault : Text.Utf8.Fault)
deriving DecidableEq

/-- The wording of a fault. -/
def ReadFault.message : ReadFault → String
  | .refused reason => reason
  | .notText fault => fault.message

/-- A handle on content kept elsewhere. -/
structure LargeObject where
  handle : Nat
  content : Except ReadFault (List UInt8)

namespace LargeObject

/-- The whole content. -/
def readBytes (o : LargeObject) : Except ReadFault (List UInt8) := o.content

/-- The whole content as text. -/
def readText (o : LargeObject) : Except ReadFault String := do
  (Text.Utf8.decode (← o.readBytes)).mapError .notText

/-- Whether two handles are the same. -/
def same (a b : LargeObject) : Bool := a.handle == b.handle

end LargeObject
end QueryRegression
