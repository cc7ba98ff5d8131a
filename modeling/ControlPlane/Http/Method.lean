/-!
# Request Methods

The methods that the server tells apart. Every other method is one it does not
know, which is not an error of the message: such a request is answered like any
other, with a refusal.

A method is a token, and methods differ in the case of their letters.

## Main definitions

* `isTokenChar`: The characters of tokens.
* `Method`: The methods told apart.
* `Method.ofToken?`: The method that a text names, if the text is a token.
* `Method.name`: The name used in logs and counters.
-/

namespace ControlPlane

namespace Http

/-- The character may stand in a token: a letter or digit of ASCII, or one of
    fifteen marks. -/
def isTokenChar (c : Char) : Bool :=
  c.isAlphanum || c ∈ ['!', '#', '$', '%', '&', '\x27', '*', '+', '-', '.', '^', '_', '\x60', '|', '~']

/-- The methods that the server tells apart. -/
inductive Method where
  | get
  | post
  | head
  | put
  | options
  | unknown
  deriving DecidableEq

namespace Method

/-- The method with the given name; every name but five is unknown. -/
def ofName (name : String) : Method :=
  if name = "GET" then .get
  else if name = "POST" then .post
  else if name = "HEAD" then .head
  else if name = "PUT" then .put
  else if name = "OPTIONS" then .options
  else .unknown

/-- The method that a text names. A text that is no token names none. -/
def ofToken? (text : String) : Option Method :=
  if text.isEmpty || !text.toList.all isTokenChar then none else some (ofName text)

/-- The name used in logs and counters. -/
def name : Method → String
  | .get => "GET"
  | .post => "POST"
  | .head => "HEAD"
  | .put => "PUT"
  | .options => "OPTIONS"
  | .unknown => "unknown"

/-- The name used where a request is shown with its parts. -/
def label : Method → String
  | .get => "Get"
  | .post => "Post"
  | .head => "Head"
  | .put => "Put"
  | .options => "Options"
  | .unknown => "Unknown"

end Method

end Http

end ControlPlane
