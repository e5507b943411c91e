import FormulaMap.Http.Url
import FormulaMap.Text.Blank

/-!
# Exchanges

Posting a document to an address: what is sent, what comes back, and why nothing can be sent.
-/

namespace FormulaMap
namespace Http

/-- A document on its way to an address. -/
structure Post where
  url : Url
  /-- What shows that the sender may send it. -/
  authorization : String
  body : String
  deriving DecidableEq, Repr

namespace Post

/-- The first line of a post. -/
def requestLine (p : Post) : String :=
  "POST " ++ String.ofList p.url.target ++ " HTTP/1.1"

/-- The kind of document that is posted. -/
def contentType : String := "application/json"

/-- How the sender calls itself. -/
def userAgent : String := "fmap/0.1.0"

end Post

/-- What comes back. -/
structure Response where
  status : Nat
  body : String
  deriving DecidableEq, Repr

/-- Whether a response is one of success. -/
def Response.isSuccess (r : Response) : Bool :=
  200 ≤ r.status && r.status < 300

/-- Why nothing comes back. -/
inductive PostFault where
  /-- There is no address to send to, or the key cannot be shown. -/
  | unbuildable
  /-- The scheme of the address is one for other purposes. -/
  | wrongScheme (url : Url)
  /-- Nobody answers. -/
  | unanswered (url : Url)
  deriving DecidableEq, Repr

/-- The wording of a fault. -/
def PostFault.message : PostFault → String
  | unbuildable => "builder error"
  | wrongScheme url => "builder error for url (" ++ url.text ++ ")"
  | unanswered url => "error sending request for url (" ++ url.text ++ ")"

/-- How posts are answered, if they are. -/
abbrev Transport := Post → Option Response

/-- What becomes of a post on its way: the posts that arrive for it.  There can be several where it
is sent again, or passed on to where an answer points. -/
abbrev Wire := Post → List Post

/-- Whether every post arrives as it was handed over and once: none is sent again, and no answer
passes one on. -/
def Wire.IsDirect (wire : Wire) : Prop := ∀ p, wire p = [p]

/-- What comes of work that may post documents: the posts it hands over, in their order, and its
result. -/
structure Posting (α : Type) where
  posts : List Post
  result : α
  deriving DecidableEq, Repr

namespace Posting

instance : Monad Posting where
  pure a := ⟨[], a⟩
  bind x f := ⟨x.posts ++ (f x.result).posts, (f x.result).result⟩

variable {α β : Type}

@[simp]
theorem posts_pure (a : α) : (pure a : Posting α).posts = [] := rfl

@[simp]
theorem result_pure (a : α) : (pure a : Posting α).result = a := rfl

@[simp]
theorem posts_bind (x : Posting α) (f : α → Posting β) :
    (x >>= f).posts = x.posts ++ (f x.result).posts := rfl

@[simp]
theorem result_bind (x : Posting α) (f : α → Posting β) :
    (x >>= f).result = (f x.result).result := rfl

@[simp]
theorem posts_map (f : α → β) (x : Posting α) : (f <$> x).posts = x.posts :=
  List.append_nil _

@[simp]
theorem result_map (f : α → β) (x : Posting α) : (f <$> x).result = f x.result := rfl

end Posting

/-- Whether a character may stand in what is sent along with a document. -/
def isHeaderChar (c : Char) : Bool :=
  c == '\t' || (32 ≤ c.toNat && c.toNat != 127)

/-- The post of a document to an address with a key. -/
def Post.build (address key body : String) : Except PostFault Post :=
  match Url.read? address.toList with
  | none => .error .unbuildable
  | some url =>
    if !key.toList.all isHeaderChar then .error .unbuildable
    else if url.scheme ≠ "http" ∧ url.scheme ≠ "https" then .error (.wrongScheme url)
    else
      let authorization := String.ofList (Text.trim ("Bearer ".toList ++ key.toList))
      .ok ⟨url, authorization, body⟩

/-- Posts a document. -/
def Post.send (transport : Transport) (p : Post) : Posting (Except PostFault Response) where
  posts := [p]
  result :=
    match transport p with
    | some response => .ok response
    | none => .error (.unanswered p.url)

end Http
end FormulaMap
