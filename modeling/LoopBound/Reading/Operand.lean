import LoopBound.Reading.Part

/-!
# Parts: operands

What stands between operators: templates, accesses and calls, functions, objects and classes. An
access or call is a tail, which is applied to what stands in front of it.
-/

namespace LoopBound.Reading

open LoopBound.Syntax LoopBound.Grammar
open LoopBound.Text (Position)

namespace Part

/-! ## Templates, accesses and calls -/

/-- Adds the text of a chunk to the first of the texts. -/
def addChunk (chunk : String) : List String → List String
  | [] => [chunk]
  | s :: ss => (chunk ++ s) :: ss

/-- The texts around the substitutions of a template. -/
def quasis : List Part → List String
  | [] => [""]
  | token _ s _ :: ps => addChunk s (quasis ps)
  | _ :: ps => "" :: quasis ps

/-- The substitution in a template. -/
def substitution? : Part → Option Node
  | substitution n => some n
  | _ => none

/-- A template. -/
def templateLiteral (loc : Position) (ps : List Part) : Part :=
  template (.templateLiteral (quasis ps) (ps.filterMap substitution?) loc)

/-- An access by name. -/
def dotMember : List Part → Part
  | [expression n] => tail (.member n false false)
  | _ => nothing

/-- An access by value. -/
def computedMember : List Part → Part
  | [expression n] => tail (.member n true false)
  | _ => nothing

/-- An access or call that may find nothing to work on. -/
def optionalChain : List Part → Part
  | [arguments ns] => tail (.call ns true)
  | [tail (.member n computed _)] => tail (.member n computed true)
  | [expression n] => tail (.member n false true)
  | _ => nothing

/-- What follows an operand. -/
def operandTail : List Part → Part
  | [tail t] => tail t
  | [arguments ns] => tail (.call ns false)
  | [template n] => tail (.template n)
  | _ => nothing

/-- An operand with its tails, applied from left to right. -/
def operand : List Part → Part
  | expression n :: ps => expression ((ps.filterMap tail?).foldl Tail.apply n)
  | _ => nothing

/-- An object made from a constructor, with or without arguments. -/
def newExpression (loc : Position) : List Part → Part
  | [expression callee] => expression (.newExpression callee false [] loc)
  | [expression callee, arguments ns] => expression (.newExpression callee true ns loc)
  | _ => nothing

/-- The arguments of a call. -/
def argumentsOf : List Part → Part
  | [] => arguments []
  | [items ns] => arguments ns
  | _ => nothing

/-- An argument or entry of an array. -/
def argument : List Part → Part
  | [item n] => item n
  | [expression n] => item n
  | _ => nothing

/-- All arguments and entries that follow are spread here. -/
def spreadElement (loc : Position) : List Part → Part
  | [expression n] => item (.spreadElement n loc)
  | _ => nothing

/-! ## Functions, objects and classes -/

/-- The body of a function. -/
def blockOf (loc : Position) : List Part → Part
  | [statements ns] => block (.blockStatement ns loc)
  | _ => nothing

/-- Parameters and body. -/
def functionRest : List Part → Part
  | [block b] => function [] b
  | [patterns params, block b] => function params b
  | _ => nothing

/-- The key that is computed by an expression. -/
def computedPropertyName : List Part → Part
  | [expression n] => key n true
  | _ => nothing

/-- The key of a member. -/
def propertyName : List Part → Part
  | [token .string s loc] => key (.literal s .string loc) false
  | [token .number s loc] => key (.literal s .number loc) false
  | [token .name s loc] => key (ident s loc) false
  | [token .privateName s loc] => key (ident s loc) false
  | [key n computed] => key n computed
  | _ => nothing

/-- A member that is a function. -/
def method (loc : Position) (what : MemberKind) (isAsync generator : Bool) : List Part → Part
  | [key k computed, function params b] =>
    property (.property k (some (.functionExpression none params b isAsync generator loc)) what
      computed false (what == .init) loc)
  | _ => nothing

/-- A getter or setter. -/
def accessorMethod (loc : Position) : List Part → Part
  | accessor what :: ps => method loc what false false ps
  | _ => nothing

/-- An asynchronous method. -/
def asyncMethod (loc : Position) (ps : List Part) : Part :=
  let (generator, ps) := splitStar ps
  method loc .init true generator ps

/-- A key with its value. -/
def keyedProperty (loc : Position) : List Part → Part
  | [key k computed, expression v] => property (.property k (some v) .init computed false false loc)
  | [key k computed, pattern v] => property (.property k (some v) .init computed false false loc)
  | _ => nothing

/-- A name that is both key and value. -/
def shorthandProperty : List Part → Part
  | [name s loc] =>
    property (.property (ident s loc) (some (ident s loc)) .init false true false loc)
  | _ => nothing

/-- A member of an object. -/
def propertyDefinition : List Part → Part
  | [item n] => property n
  | [property n] => property n
  | _ => nothing

/-- An object. -/
def objectLiteral (loc : Position) : List Part → Part
  | [] => expression (.objectExpression [] loc)
  | [properties ns] => expression (.objectExpression ns loc)
  | _ => nothing

/-- A method named so makes the objects of its class. -/
def methodKind (what : MemberKind) (computed : Bool) : Node → MemberKind
  | .identifier "constructor" _ =>
    if what == .get || what == .set then what else if computed then .method else .constructor
  | _ => if what == .get || what == .set then what else .method

/-- A method of a class. -/
def methodDefinition (loc : Position) (ps : List Part) : Part :=
  let (isStatic, ps) := splitStatic ps
  match ps with
  | [property (.property k (some v) what computed _ _ _)] =>
    member (.methodDefinition k v (methodKind what computed k) isStatic computed loc)
  | _ => nothing

/-- A field of a class. -/
def classField (loc : Position) (ps : List Part) : Part :=
  let (isStatic, ps) := splitStatic ps
  match ps with
  | [key k computed] => member (.propertyDefinition k none isStatic computed loc)
  | [key k computed, expression v] =>
    member (.propertyDefinition k (some v) isStatic computed loc)
  | _ => nothing

/-- The class that a class extends. -/
def classHeritage : List Part → Part
  | [expression n] => heritage n
  | _ => nothing

/-- Heritage and members. -/
def classTailOf : List Part → Part
  | [members ms] => classTail none ms
  | [heritage s, members ms] => classTail (some s) ms
  | _ => nothing

/-- A class in an expression. -/
def classExpression (loc : Position) (ps : List Part) : Part :=
  let (id, ps) := splitName ps
  match ps with
  | [classTail superclass ms] => expression (.classExpression id superclass ms loc)
  | _ => nothing

/-- A function in an expression. -/
def functionExpression (loc : Position) : List Part → Part
  | head isAsync generator :: ps =>
    let (id, ps) := splitName ps
    match ps with
    | [function params b] =>
      expression (.functionExpression id params b isAsync generator loc)
    | _ => nothing
  | _ => nothing

end Part

end LoopBound.Reading
