import FormRules.Rule.Expression
import FormRules.Rule.Predicate

/-!
Tokens and descriptors.

Rules are given as tokens: an expression, a rule class, a callback, or a list or tuple of tokens,
nested at will. Each usable leaf becomes a descriptor, in the order of the leaves; the first
unusable leaf is the reason for a refusal.
-/

namespace FormRules

/-- The two kinds of groups of tokens. -/
inductive Grouping where
  | list
  | tuple
  deriving DecidableEq, Repr

/-- A token that is not a group. -/
inductive Leaf where
  | expression (text : String)
  | handler (handler : Handler)
  /-- Anything else, known by the name of its kind. -/
  | unusable (kindName : String)

/-- A token, or a group of tokens. -/
inductive Token where
  | leaf (leaf : Leaf)
  | group (grouping : Grouping) (tokens : List Token)

instance : Inhabited Token :=
  ⟨.group .list []⟩

namespace Grouping

def kindName :
    Grouping → String
  | list => "list"
  | tuple => "tuple"

end Grouping

/-- What a descriptor refers to: a rule by name, or a class or callback. -/
inductive Target where
  | named (name : String)
  | handler (handler : Handler)

/-- One rule of a chain, with its options and the message that replaces its own. -/
structure Descriptor where
  target : Target
  options : List String
  source : String
  message : Value

namespace Descriptor

def displayName
    (descriptor : Descriptor) :
    String :=
  match descriptor.target with
  | .named name => name
  | .handler handler => handler.displayName

def ofExpression
    (expression : Expression) (message : Value) :
    Descriptor :=
  ⟨.named expression.name, expression.options, expression.source, message⟩

def ofText
    (text : String) (message : Value) :
    Except Refusal Descriptor :=
  match Expression.ofText? text with
  | some expression => .ok (.ofExpression expression message)
  | none => .error (.invalidExpression text)

def ofLeaf
    (leaf : Leaf) (message : Value) :
    Except Refusal Descriptor :=
  match leaf with
  | .expression text => ofText text message
  | .handler handler => .ok ⟨.handler handler, [], "", message⟩
  | .unusable kindName => .error (.unusableToken kindName)

end Descriptor

namespace Token

/-- The descriptor of a single token. A group is not a single token. -/
def descriptor
    (message : Value) :
    Token → Except Refusal Descriptor
  | leaf single => Descriptor.ofLeaf single message
  | group grouping _ => .error (.unusableToken grouping.kindName)

mutual

/-- The descriptors of the leaves of a token, in their order, or the refusal of the first leaf
that is unusable. -/
def descriptors
    (message : Value) :
    Token → Except Refusal (List Descriptor)
  | leaf single => (Descriptor.ofLeaf single message).map fun descriptor => [descriptor]
  | group _ tokens => descriptorsOfAll message tokens

def descriptorsOfAll
    (message : Value) :
    List Token → Except Refusal (List Descriptor)
  | [] => .ok []
  | token :: tokens =>
      match descriptors message token with
      | .error refusal => .error refusal
      | .ok first =>
          match descriptorsOfAll message tokens with
          | .error refusal => .error refusal
          | .ok others => .ok (first ++ others)

end

mutual

def leaves :
    Token → List Leaf
  | leaf single => [single]
  | group _ tokens => leavesOfAll tokens

def leavesOfAll :
    List Token → List Leaf
  | [] => []
  | token :: tokens => leaves token ++ leavesOfAll tokens

end

/-- The descriptors of a token that is to be attached to a field. What is no token at all is
refused with the name of the field. -/
def descriptorsForField
    (field : String) (message : Value) (token : Token) :
    Except Refusal (List Descriptor) :=
  match token with
  | leaf (.unusable kindName) => .error (.unusableRules field kindName)
  | _ => token.descriptors message

end Token

end FormRules
